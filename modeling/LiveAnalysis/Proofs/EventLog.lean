import LiveAnalysis.Proofs.Notices
import LiveAnalysis.Proofs.Shutdown

namespace LiveAnalysis

variable {P : Type}

def Worker.verdict (w : Worker P) (c : Nat × Snapshot) : Snapshot × Verdict P :=
  (c.2, w.analyzer c.1 c.2.text c.2.version)

namespace Engine

variable {w : Worker P} {e : Engine P}

theorem turnNotice?_aside {a : Activity P} (ha : a.verdict? = none) {n : Notice}
    (hn : e.turnNotice? w a = some n) : n.isFailure = false ∧ n.ready? = none := by
  unfold turnNotice? at hn
  rw [ha] at hn
  split at hn
  · rename_i h
    simp at h
  · split at hn
    · cases hn
      exact ⟨rfl,rfl⟩
    · simp at hn
  · split at hn
    · cases hn
      exact ⟨rfl,rfl⟩
    · simp at hn
  · simp at hn

theorem notice?_cases (w : Worker P) (e : Engine P) (m : Move) :
    (∃ s verdict, e.attempt? m = some (s,verdict) ∧ e.notice? w m = e.verdictNotice? w s verdict) ∨
    e.attempt? m = none ∧ ∀ n ∈ e.notice? w m, n.isFailure = false ∧ n.ready? = none := by
  cases m with
  | turn place =>
    simp only [attempt?, turning?, notice?]
    cases e.ready[place]? with
    | none => exact Or.inr ⟨rfl, by simp⟩
    | some t =>
      simp only [Option.bind_some]
      cases e.activity? t with
      | none => exact Or.inr ⟨rfl, by simp⟩
      | some a =>
        simp only [Option.bind_some]
        cases ha : a.verdict? with
        | some r => exact Or.inl ⟨r.1, r.2, rfl, by simp only [turnNotice?, ha]⟩
        | none => exact Or.inr ⟨rfl, fun n hn => turnNotice?_aside ha hn⟩
  | ask r =>
    refine Or.inr ⟨rfl, fun n hn => ?_⟩
    simp only [notice?, Request.notice?] at hn
    split at hn <;> simp at hn <;> subst hn <;> exact ⟨rfl,rfl⟩
  | _ => exact Or.inr ⟨rfl, by simp [notice?]⟩

theorem notice?_failure (w : Worker P) (e : Engine P) (m : Move) :
    (e.notice? w m).toList.filter Notice.isFailure = (e.attempt? m).toList.filterMap fun a => a.2.failure? a.1 := by
  rcases e.notice?_cases w m with ⟨s,verdict,ha,hn⟩ | ⟨ha,hn⟩
  · rw [ha, hn]
    cases verdict with
    | found payload =>
      simp only [verdictNotice?]
      split <;> rfl
    | _ => rfl
  · rw [ha]
    refine List.filter_eq_nil_iff.mpr fun n hx => ne_true_of_eq_false (hn n (Option.mem_toList.mp hx)).1

theorem notice?_ready (w : Worker P) (e : Engine P) (m : Move) :
    (e.notice? w m).toList.filterMap Notice.ready? =
      if w.announces then (e.stored? m).toList.map (·.1) else [] := by
  rcases e.notice?_cases w m with ⟨s,verdict,ha,hn⟩ | ⟨ha,hn⟩
  · rw [hn, stored?, ha]
    cases verdict with
    | found payload =>
      by_cases hs : (e.store.publish s payload).2 = .stored <;>
        by_cases hw : w.announces = true <;> simp [verdictNotice?, hs, hw, Notice.ready?]
    | failed reason => simp [verdictNotice?, Notice.ready?]
    | panicked => simp [verdictNotice?, Notice.ready?]
  · rw [stored?, ha]
    have hnil := List.filterMap_eq_nil_iff.mpr fun n hx => (hn n (Option.mem_toList.mp hx)).2
    simp [hnil]

theorem ready_published {m : Move} {s : Snapshot} (h : e.notice? w m = some (.ready s)) :
    ∃ t payload, e.turning? m = some t ∧ e.Concludes t s (.found payload) ∧
      (e.store.publish s payload).2 = .stored := by
  rcases e.notice?_cases w m with ⟨s',verdict,ha,hn⟩ | ⟨_,hn⟩
  · rw [hn] at h
    obtain ⟨t,ht,ha⟩ := Option.bind_eq_some_iff.mp ha
    cases verdict with
    | found payload =>
      simp only [verdictNotice?] at h
      split at h
      · rename_i hs
        cases h
        exact ⟨t, payload, ht, Option.bind_eq_some_iff.mp ha, hs.1⟩
      · simp at h
    | failed reason => simp [verdictNotice?] at h
    | panicked => simp [verdictNotice?] at h
  · exact absurd (hn _ h).2 (by simp [Notice.ready?])

/-! The verdicts of the analyzer are acted upon in their order, each but the last at once. -/

inductive Tally (w : Worker P) (e : Engine P) (verdicts attempts : List (Snapshot × Verdict P)) : Prop where
  | all (h : verdicts = attempts) (hj : ∀ s verdict, e.stage? ≠ some (.judged s verdict))
    (hc : ∀ u owner s call, e.activity? u ≠ some (.analysis owner s (some call)))
  | called {u s call} (hu : e.activity? u = some (.analysis 0 s (some call)))
    (h : verdicts = attempts ++ [(s, w.analyzer call s.text s.version)])
  | judged {s verdict} (hg : e.stage? = some (.judged s verdict))
    (h : verdicts = attempts ++ [(s, verdict)])

theorem judge_stage? (w : Worker P) {e : Engine P} {t : Ticket} (ht : t ≠ 0) {stage : Stage P}
    (hg : e.stage? = some stage) (s : Snapshot) (call : Nat) :
    (e.judge w t 0 s call).stage? = some (.judged s (w.analyzer call s.text s.version)) := by
  rw [stage?_eq] at hg ⊢
  rw [judge, activity?_deliver, if_pos rfl, activity?_remove, if_neg (Ne.symm ht), hg]

theorem analysisTurn_stage? (w : Worker P) {e : Engine P} {t : Ticket} (ht : t ≠ 0) {stage : Stage P}
    (hg : e.stage? = some stage) {s : Snapshot} {c : Option Nat}
    (hu : e.activity? t = some (.analysis 0 s c)) :
    (e.analysisTurn w t 0 s c).stage? =
        some (.judged s (w.analyzer (c.getD (e.calls + 1)) s.text s.version)) ∨
      c = none ∧ (e.analysisTurn w t 0 s c).activity? t = some (.analysis 0 s (some (e.calls + 1))) := by
  cases c with
  | some call => exact Or.inl (judge_stage? w ht hg s call)
  | none =>
    simp only [analysisTurn]
    split
    · exact Or.inl (judge_stage? w ht (by exact hg) s _)
    · split
      · exact Or.inl (judge_stage? w ht (by exact hg) s _)
      · exact Or.inr ⟨trivial, activity?_set_self _ (by exact hu)⟩

theorem Acts.judged_before {e' : Engine P} {ids : List DocumentId} {o : Option (Snapshot × Verdict P)}
    (h : Acts w e e' ids o) {s : Snapshot} {verdict : Verdict P}
    (hg : e.stage? = some (.judged s verdict)) :
    (o = none ∧ e'.stage? = some (.judged s verdict)) ∨
      o = some (s,verdict) ∧ ∀ s' verdict', e'.stage? ≠ some (.judged s' verdict') := by
  cases h with
  | rests _ _ _ hg' => exact Or.inl ⟨rfl, hg'.trans hg⟩
  | opens _ _ _ hg' => exact Or.inl ⟨rfl, hg'.trans hg⟩
  | changes _ _ _ hg' => exact Or.inl ⟨rfl, hg'.trans hg⟩
  | closes _ _ _ hg' => exact Or.inl ⟨rfl, hg'.trans hg⟩
  | requests _ _ _ _ _ hg' => exact Or.inl ⟨rfl, hg'.trans hg⟩
  | judges _ _ _ _ _ hg' => cases hg.symm.trans hg'
  | takes hg' _ _ _ _ _ _ hn =>
    cases hg.symm.trans hg'
    exact Or.inr ⟨rfl, by simp [hn]⟩
  | parks hg' _ _ _ _ _ _ hn =>
    cases hg.symm.trans hg'
    exact Or.inr ⟨rfl, by simp [hn]⟩
  | leaves hg' _ _ _ _ _ hn =>
    cases hg.symm.trans hg'
    exact Or.inr ⟨rfl, by simp [hn]⟩
  | shuts _ _ _ _ hg' => exact Or.inl ⟨rfl, hg'.trans hg⟩

theorem Acts.judged_after {e' : Engine P} {ids : List DocumentId} {o : Option (Snapshot × Verdict P)}
    (h : Acts w e e' ids o) {s : Snapshot} {verdict : Verdict P}
    (hg : e'.stage? = some (.judged s verdict)) :
    e.stage? = some (.judged s verdict) ∨
      ∃ t c, e.activity? t = some (.analysis 0 s c) ∧ e'.activity? t = none := by
  cases h with
  | rests _ _ _ hg' => exact Or.inl (hg'.symm.trans hg)
  | opens _ _ _ hg' => exact Or.inl (hg'.symm.trans hg)
  | changes _ _ _ hg' => exact Or.inl (hg'.symm.trans hg)
  | closes _ _ _ hg' => exact Or.inl (hg'.symm.trans hg)
  | requests _ _ _ _ _ hg' => exact Or.inl (hg'.symm.trans hg)
  | judges hu hu' _ _ _ _ hg' =>
    cases hg.symm.trans hg'
    exact Or.inr ⟨_,_,hu,hu'⟩
  | takes _ _ _ _ _ _ _ hg' => simp [hg'] at hg
  | parks _ _ _ _ _ _ _ hg' => simp [hg'] at hg
  | leaves _ _ _ _ _ _ hg' => simp [hg'] at hg
  | shuts _ _ _ _ hg' => exact Or.inl (hg'.symm.trans hg)

theorem attempt?_eq {m : Service.Move} (hst : e.Staffed) {s : Snapshot} {verdict : Verdict P}
    (h : e.attempt? m.engine = some (s,verdict)) : e.stage? = some (.judged s verdict) := by
  obtain ⟨t,_,h⟩ := Option.bind_eq_some_iff.mp h
  obtain ⟨a,hu,ha⟩ := Option.bind_eq_some_iff.mp h
  cases a with
  | loop stage =>
    obtain rfl := hst.loop_ticket hu
    cases stage with
    | judged s' verdict' =>
      cases ha
      exact stage?_eq.mpr hu
    | _ => simp [Activity.verdict?] at ha
  | process id stage => exact absurd hu hst.no_process
  | _ => simp [Activity.verdict?] at ha

-- An analysis that has a number came by it when it was asked for.
theorem numbered_came (ho : e.Orderly) {m : Service.Move} {u owner : Ticket} {s : Snapshot} {call : Nat}
    (hu : (e.move w m.engine).activity? u = some (.analysis owner s (some call))) :
    e.activity? u = some (.analysis owner s (some call)) ∨
      e.consulted? m.engine = some (call,s) := by
  cases (moved w ho m.engine).comes u _ hu with
  | stays hx => exact Or.inl hx
  | starts hf => simp [Activity.isFresh] at hf
  | arises ht har =>
    cases har with
    | kept hx => exact Or.inl hx
    | asked hx => exact Or.inr (consulted?_some.mpr ⟨rfl,_,_,ht,hx⟩)

section Tally

variable {verdicts attempts : List (Snapshot × Verdict P)} (h : e.Tally w verdicts attempts)
  (ho : e.Orderly) (hst : e.Staffed) (m : Service.Move)

include h ho hst

omit ho in
theorem Tally.consulted {call : Nat} {s : Snapshot} (hc : e.consulted? m.engine = some (call,s)) :
    (e.move w m.engine).Tally w (verdicts ++ [w.verdict (call,s)]) attempts := by
  obtain ⟨hcall,t,owner,ht,hu⟩ := consulted?_some.mp hc
  obtain ⟨rfl,hg⟩ := hst.of_analysis hu
  have hall : verdicts = attempts := by
    cases h with
    | all h => exact h
    | called hx =>
      obtain rfl := hst.sole _ _ _ _ _ _ hx hu
      simp [hu] at hx
    | judged hx => simp [hg] at hx
  obtain ⟨ready,he⟩ := move_turning w ht
  have hu' : ({ e with ready } : Engine P).activity? t = some (.analysis 0 s none) := hu
  have hturn := analysisTurn_stage? w (e := { e with ready }) (hst.ticket_ne hu (by simp)) (by exact hg) hu'
  rw [he]
  simp only [turn, hu']
  rcases hturn with hj | ⟨_,hn⟩
  · exact .judged hj (by rw [hall, Worker.verdict, hcall]; rfl)
  · exact .called hn (by rw [hall, Worker.verdict, hcall])

theorem Tally.move : (e.move w m.engine).Tally w
    (verdicts ++ (e.consulted? m.engine).toList.map w.verdict)
    (attempts ++ (e.attempt? m.engine).toList) := by
  have ha := acts w hst m
  cases hc : e.consulted? m.engine with
  | some c =>
    obtain ⟨_,t,owner,ht,hu⟩ := consulted?_some.mp hc
    have hnone : e.attempt? m.engine = none := by
      rw [attempt?, ht, Option.bind_some, hu]
      rfl
    rw [hnone, Option.toList_none, List.append_nil]
    exact h.consulted hst m hc
  | none =>
    have hnum : ∀ u owner s call, (e.move w m.engine).activity? u = some (.analysis owner s (some call)) →
        e.activity? u = some (.analysis owner s (some call)) := by
      intro u owner s call hu
      exact (numbered_came ho hu).resolve_right (by simp [hc])
    rw [Option.toList_none, List.map_nil, List.append_nil]
    cases h with
    | all h hj hn =>
      have hnone : e.attempt? m.engine = none := by
        cases hx : e.attempt? m.engine with
        | none => rfl
        | some r => exact absurd (attempt?_eq hst hx) (hj _ _)
      rw [hnone, Option.toList_none, List.append_nil]
      refine .all h (fun s verdict hg => ?_) fun u owner s call hu => hn _ _ _ _ (hnum u owner s call hu)
      rcases ha.judged_after hg with hx | ⟨t,c,hu,hgone⟩
      · exact hj s verdict hx
      · cases c with
        | some call => exact hn _ _ _ _ hu
        | none =>
          have hstill := (moved w ho m.engine).still_waits hu rfl fun ht => by
            have hx := (consulted?_some (c := (_,_))).mpr ⟨rfl,_,_,ht,hu⟩
            simp [hc] at hx
          simp [hstill] at hgone
    | @called u s call hu h =>
      obtain ⟨_,hg⟩ := hst.of_analysis hu
      have hnone : e.attempt? m.engine = none := by
        cases hx : e.attempt? m.engine with
        | none => rfl
        | some r =>
          have hj := attempt?_eq hst (hx : e.attempt? m.engine = some (r.1,r.2))
          simp [hj] at hg
      rw [hnone, Option.toList_none, List.append_nil]
      by_cases ht : e.turning? m.engine = some u
      · obtain ⟨ready,he⟩ := move_turning w ht
        have hu' : ({ e with ready } : Engine P).activity? u = some (.analysis 0 s (some call)) := hu
        rw [he]
        simp only [turn, hu']
        exact .judged (judge_stage? w (hst.ticket_ne hu (by simp)) (by exact hg) s call) h
      · exact .called ((moved w ho m.engine).still_waits hu rfl ht) h
    | judged hg h =>
      rcases ha.judged_before hg with ⟨hnone,hg'⟩ | ⟨hsome,hn⟩
      · rw [hnone, Option.toList_none, List.append_nil]
        exact .judged hg' h
      · rw [hsome, Option.toList_some]
        refine .all h hn fun u owner s call hu => ?_
        have hx := (hst.of_analysis (hnum u owner s call hu)).2
        simp [hg] at hx

end Tally

structure Closings (e : Engine P) : Prop where
  stopped : ∀ u, e.activity? u = some (.shutdown true) → e.stopped = true
  sole : ∀ u u', e.activity? u = some (.shutdown true) → e.activity? u' = some (.shutdown true) → u = u'

structure Down (e : Engine P) : Prop where
  stopped : e.stopped = true
  gone : e.stage? = none
  closed : ∀ u, e.activity? u ≠ some (.shutdown true)

theorem turn_shutdown (w : Worker P) {t : Ticket} {begun : Bool}
    (hu : e.activity? t = some (.shutdown begun)) : e.turn w t = e.shutdownTurn t begun := by
  simp only [turn, hu]

theorem endShutdown_activity? (e : Engine P) (t : Ticket) : (e.endShutdown t).activity? t = none := by
  rw [endShutdown, activity?_finish, if_pos rfl]

theorem shutdownTurn_repeated (hs : e.stopped = true) (t : Ticket) :
    (e.shutdownTurn t false).activity? t = none := by
  simp only [shutdownTurn, hs, if_true]
  rw [activity?_finish, if_pos rfl]

theorem shutdownTurn_alone (hs : e.stopped = false) (hl : e.hasLoop = false) (t : Ticket) :
    (e.shutdownTurn t false).activity? t = none := by
  have hloop : (e.stop.wakeAll e.stop.watches).shutQueue.hasLoop = false := by
    rw [← hl]
    simp only [hasLoop, e.keeps_shutDown.activities]
  simp only [shutdownTurn, hs, hloop, Bool.false_eq_true, if_false]
  exact endShutdown_activity? _ t

theorem closing_came (ho : e.Orderly) {m : Service.Move} {u : Ticket}
    (hu : (e.move w m.engine).activity? u = some (.shutdown true)) :
    e.activity? u = some (.shutdown true) ∨ e.turning? m.engine = some u ∧
      e.activity? u = some (.shutdown false) ∧ e.stopped = false := by
  cases (moved w ho m.engine).comes u _ hu with
  | stays hx => exact Or.inl hx
  | starts hf => simp [Activity.isFresh] at hf
  | arises ht har =>
    cases har with
    | kept hx => exact Or.inl hx
    | closing hx =>
      refine Or.inr ⟨ht, hx, Bool.eq_false_iff.mpr fun hs => ?_⟩
      obtain ⟨ready,he⟩ := move_turning w ht
      have hx' : ({ e with ready } : Engine P).activity? u = some (.shutdown false) := hx
      rw [he, turn_shutdown w hx', shutdownTurn_repeated (by exact hs)] at hu
      simp at hu

theorem Closings.move (h : e.Closings) (ho : e.Orderly) (m : Service.Move) :
    (e.move w m.engine).Closings where
  stopped u hu := by
    rcases closing_came ho hu with hx | ⟨ht,hx,_⟩
    · exact (moved w ho m.engine).stopped (h.stopped u hx)
    · obtain ⟨ready,he⟩ := move_turning w ht
      have hx' : ({ e with ready } : Engine P).activity? u = some (.shutdown false) := hx
      rw [he, turn_shutdown w hx']
      exact shutdownTurn_stopped _ u
  sole u u' hu hu' := by
    rcases closing_came ho hu with hx | ⟨ht,hx,hs⟩
    · rcases closing_came ho hu' with hx' | ⟨_,_,hs⟩
      · exact h.sole u u' hx hx'
      · simp [h.stopped u hx] at hs
    · rcases closing_came ho hu' with hx' | ⟨ht',_,_⟩
      · simp [h.stopped u' hx'] at hs
      · exact Option.some.inj (ht.symm.trans ht')

theorem Down.notice? (h : e.Down) (hst : e.Staffed) (m : Service.Move) : e.notice? w m.engine = none := by
  cases m with
  | ask r =>
    cases r with
    | openDocument id text =>
      simp only [Service.Move.engine, Engine.notice?]
      rw [Service.receive_stopped (s := ⟨w, {}, e⟩) h.stopped rfl]
      rfl
    | close id =>
      simp only [Service.Move.engine, Engine.notice?]
      rw [Service.receive_stopped (s := ⟨w, {}, e⟩) h.stopped rfl]
      rfl
    | _ => rfl
  | turn place =>
    simp only [Service.Move.engine, Engine.notice?]
    cases e.ready[place]? with
    | none => rfl
    | some t =>
      rw [Option.bind_some]
      cases hu : e.activity? t with
      | none => rfl
      | some a =>
        rw [Option.bind_some]
        cases a with
        | loop stage =>
          obtain rfl := hst.loop_ticket hu
          have hg := stage?_eq.mpr hu
          simp [h.gone] at hg
        | process id stage => exact absurd hu hst.no_process
        | call c => cases c <;> simp [turnNotice?, Activity.verdict?, opens, h.stopped]
        | shutdown begun =>
          cases begun with
          | true => exact absurd hu (h.closed t)
          | false => simp [turnNotice?, Activity.verdict?, h.stopped]
        | _ => rfl
  | _ => rfl

theorem Down.move (h : e.Down) (ho : e.Orderly) (hst : e.Staffed) (m : Service.Move) :
    (e.move w m.engine).Down where
  stopped := (moved w ho m.engine).stopped h.stopped
  gone := (acts w hst m).gone h.gone
  closed u hu := by
    rcases closing_came ho hu with hx | ⟨_,_,hs⟩
    · exact h.closed u hx
    · simp [h.stopped] at hs

theorem notice?_down {m : Service.Move} (h : e.notice? w m.engine = some .down) :
    ∃ t begun, e.turning? m.engine = some t ∧ e.activity? t = some (.shutdown begun) ∧
      (begun = false → e.stopped = false ∧ e.hasLoop = false) := by
  cases m with
  | ask r =>
    simp only [Service.Move.engine, notice?, Request.notice?] at h
    split at h <;> simp at h
  | turn place =>
    simp only [Service.Move.engine, notice?] at h
    obtain ⟨a,hu,ha⟩ := Option.bind_eq_some_iff.mp h
    obtain ⟨t,ht,hu⟩ := Option.bind_eq_some_iff.mp hu
    unfold turnNotice? at ha
    split at ha
    · rename_i s verdict _ _
      cases verdict <;> simp [verdictNotice?] at ha
    · split at ha <;> simp at ha
    · rename_i begun _ _
      refine ⟨t, begun, ht, hu, ?_⟩
      rintro rfl
      simpa using ha
    · simp at ha
  | _ => simp [notice?, Service.Move.engine] at h

theorem down_reached (hc : e.Closings) (hd : e.Tidy none) (ho : e.Orderly) (hst : e.Staffed)
    {m : Service.Move} (h : e.notice? w m.engine = some .down) : (e.move w m.engine).Down := by
  obtain ⟨t,begun,ht,hu,hf⟩ := notice?_down h
  have hm := moved w ho m.engine
  have hgone := (acts w hst m).gone
  obtain ⟨ready,he⟩ := move_turning w ht
  have hu' : ({ e with ready } : Engine P).activity? t = some (.shutdown begun) := hu
  have hfinish : (e.move w m.engine).activity? t = none := by
    rw [he, turn_shutdown w hu']
    cases begun with
    | true => exact endShutdown_activity? _ t
    | false => exact shutdownTurn_alone (by exact (hf rfl).1) (by exact (hf rfl).2) t
  have hclosed : (∀ u, e.activity? u = some (.shutdown true) → u = t) →
      ∀ u, (e.move w m.engine).activity? u ≠ some (.shutdown true) := by
    intro hsole u hx
    have hut : u = t := by
      rcases closing_came ho hx with hx | ⟨ht',_,_⟩
      · exact hsole u hx
      · exact Option.some.inj (ht'.symm.trans ht)
    rw [hut, hfinish] at hx
    simp at hx
  cases begun with
  | true =>
    have hin : t ∈ e.ready := by
      cases m <;> simp [turning?, Service.Move.engine] at ht
      exact List.mem_of_getElem? ht
    exact ⟨hm.stopped (hc.stopped t hu), hgone (hd.held t hu hin), hclosed fun u hx => hc.sole u t hx hu⟩
  | false =>
    obtain ⟨hs,hl⟩ := hf rfl
    have hstage : e.stage? = none := by
      cases hg : e.stage? with
      | none => rfl
      | some stage => simp [hasLoop_of_stage hg] at hl
    refine ⟨?_, hgone hstage, hclosed fun u hx => ?_⟩
    · rw [he, turn_shutdown w hu']
      exact shutdownTurn_stopped _ t
    · simp [hc.stopped u hx] at hs

end Engine

namespace Service

open Engine

section Runs

variable (analyzer : Analyzer P) (config : Config) (gate : Option Gate)

def notices (moves : List Move) : List Notice :=
  .started :: (reached analyzer config gate []).record ⟨analyzer, config.updates⟩
    (Engine.notice? ⟨analyzer, config.updates⟩) (moves.map Move.engine)

def stored (moves : List Move) : List (Snapshot × P) :=
  (reached analyzer config gate []).record ⟨analyzer, config.updates⟩ Engine.stored?
    (moves.map Move.engine)

def verdicts (moves : List Move) : List (Snapshot × Verdict P) :=
  (consulted analyzer config gate moves).map (Worker.verdict ⟨analyzer, config.updates⟩)

theorem notices_concat (moves : List Move) (m : Move) : notices analyzer config gate (moves ++ [m]) =
    notices analyzer config gate moves ++ ((reached analyzer config gate moves).notice?
      ⟨analyzer, config.updates⟩ m.engine).toList := by
  rw [reached_eq analyzer config gate moves]
  simp only [notices, List.map_append, List.map_singleton, List.cons_append]
  exact congrArg _ (Engine.record_concat _ _ _ _ _)

theorem stored_concat (moves : List Move) (m : Move) : stored analyzer config gate (moves ++ [m]) =
    stored analyzer config gate moves ++
      ((reached analyzer config gate moves).stored? m.engine).toList := by
  rw [reached_eq analyzer config gate moves]
  simp only [stored, List.map_append, List.map_singleton]
  exact Engine.record_concat _ _ _ _ _

theorem events_reached (moves : List Move) : (reached analyzer config gate moves).events =
    (notices analyzer config gate moves).map Notice.event := by
  induction moves using List.reverseRecOn with
  | nil => rfl
  | append_singleton moves m ih =>
    rw [reached_concat, (told_move _ _ m).events, ih, notices_concat, List.map_append]

theorem logged_reached (moves : List Move) :
    (reached analyzer config gate moves).store.Logged (notices analyzer config gate moves) := by
  induction moves using List.reverseRecOn with
  | nil => exact Store.logged_empty
  | append_singleton moves m ih =>
    rw [reached_concat, notices_concat]
    exact ih.tells (orderly_reached analyzer config gate moves).valid (told_move _ _ m).store

theorem started_once (moves : List Move) : (notices analyzer config gate moves).count .started = 1 := by
  induction moves using List.reverseRecOn with
  | nil => rfl
  | append_singleton moves m ih =>
    have hn := (told_move ⟨analyzer, config.updates⟩ (reached analyzer config gate moves) m).store.ne_started
    rw [notices_concat, List.count_append, ih, List.count_eq_zero.mpr]
    exact fun hx => hn (Option.mem_toList.mp hx)

theorem tally_reached (moves : List Move) : (reached analyzer config gate moves).Tally
    ⟨analyzer, config.updates⟩ (verdicts analyzer config gate moves)
    (attempts analyzer config gate moves) := by
  induction moves using List.reverseRecOn with
  | nil =>
    refine .all rfl (fun s verdict hg => ?_) fun u owner s call hu => ?_
    · simp [stage?, activity?_reached_nil] at hg
    · rw [activity?_reached_nil] at hu
      split at hu <;> simp at hu
  | append_singleton moves m ih =>
    rw [reached_concat, attempts_concat, verdicts, consulted_concat, List.map_append]
    exact ih.move (orderly_reached analyzer config gate moves) (staffed_reached analyzer config gate moves) m

theorem closings_reached (moves : List Move) : (reached analyzer config gate moves).Closings := by
  induction moves using List.reverseRecOn with
  | nil =>
    have hn : ∀ u, (reached analyzer config gate []).activity? u ≠ some (.shutdown true) := by
      intro u hu
      rw [activity?_reached_nil] at hu
      split at hu <;> simp at hu
    exact ⟨fun u hu => absurd hu (hn u), fun u _ hu => absurd hu (hn u)⟩
  | append_singleton moves m ih =>
    rw [reached_concat]
    exact ih.move (orderly_reached analyzer config gate moves) m

theorem failures_told (moves : List Move) : (notices analyzer config gate moves).filter Notice.isFailure =
    (attempts analyzer config gate moves).filterMap fun a => a.2.failure? a.1 := by
  induction moves using List.reverseRecOn with
  | nil => rfl
  | append_singleton moves m ih =>
    rw [notices_concat, attempts_concat, List.filter_append, List.filterMap_append, ih, notice?_failure]

theorem stored_told (moves : List Move) : (notices analyzer config gate moves).filterMap Notice.ready? =
    if config.updates then (stored analyzer config gate moves).map (·.1) else [] := by
  induction moves using List.reverseRecOn with
  | nil => cases config.updates <;> rfl
  | append_singleton moves m ih =>
    rw [notices_concat, stored_concat, List.filterMap_append, ih, notice?_ready]
    cases config.updates <;> simp

variable {analyzer config gate}

-- Every notice but the first is that of one move.
theorem notice_told {moves : List Move} {before after : List Notice} {n : Notice}
    (h : notices analyzer config gate moves = before ++ n :: after) (hn : n ≠ .started) :
    ∃ first m rest, moves = first ++ m :: rest ∧ notices analyzer config gate first = before ∧
      (reached analyzer config gate first).notice? ⟨analyzer, config.updates⟩ m.engine = some n := by
  induction moves using List.reverseRecOn generalizing after with
  | nil =>
    cases before with
    | nil => exact absurd (List.cons.inj h).1.symm hn
    | cons x before => simp [notices, record] at h
  | append_singleton moves m ih =>
    rw [notices_concat] at h
    cases hm : (reached analyzer config gate moves).notice? ⟨analyzer, config.updates⟩ m.engine with
    | none =>
      rw [hm, Option.toList_none, List.append_nil] at h
      obtain ⟨first,m',rest,rfl,hf,hx⟩ := ih h
      exact ⟨first, m', rest ++ [m], by simp, hf, hx⟩
    | some x =>
      rw [hm, Option.toList_some] at h
      cases after using List.reverseRecOn with
      | nil =>
        obtain ⟨hb,hx⟩ := List.append_inj' h rfl
        cases hx
        exact ⟨moves, m, [], by simp, hb, hm⟩
      | append_singleton after y =>
        rw [← List.cons_append, ← List.append_assoc] at h
        obtain ⟨first,m',rest,rfl,hf,hx⟩ := ih (List.append_inj' h rfl).1
        exact ⟨first, m', rest ++ [m], by simp, hf, hx⟩

theorem down_stays (hg : ∀ g, gate = some g → g.waiting = []) {first : List Move} {m : Move}
    (h : (reached analyzer config gate first).notice? ⟨analyzer, config.updates⟩ m.engine = some .down)
    (rest : List Move) : (reached analyzer config gate (first ++ m :: rest)).Down ∧
      notices analyzer config gate (first ++ m :: rest) = notices analyzer config gate first ++ [.down] := by
  induction rest using List.reverseRecOn with
  | nil =>
    rw [reached_concat, notices_concat, h]
    exact ⟨down_reached (closings_reached analyzer config gate first) (tidy_reached analyzer config hg first)
      (orderly_reached analyzer config gate first) (staffed_reached analyzer config gate first) h, rfl⟩
  | append_singleton rest m' ih =>
    have hst := staffed_reached analyzer config gate (first ++ m :: rest)
    rw [← List.cons_append, ← List.append_assoc, reached_concat, notices_concat, ih.1.notice? hst,
      ih.2]
    exact ⟨ih.1.move (orderly_reached analyzer config gate _) hst m', List.append_nil _⟩

theorem ready_told {first : List Move} {m : Move} {s : Snapshot}
    (h : (reached analyzer config gate first).notice? ⟨analyzer, config.updates⟩ m.engine =
      some (.ready s)) :
    ∃ l since, (reached analyzer config gate first).store.find? s.id = some l ∧
      l.generation = s.generation ∧ s.version ≤ l.version ∧
      Notice.Span (notices analyzer config gate first) s.id since ∧
      ∀ s', .ready s' ∈ since → s'.id = s.id → s'.version ≤ s.version := by
  have hv := (orderly_reached analyzer config gate first).valid
  obtain ⟨t,payload,_,⟨a,hu,ha⟩,hs⟩ := ready_published h
  obtain ⟨_,k,hk,_,hle⟩ := (sourced_reached analyzer config gate first).taken t a s hu
    (Activity.snapshot?_of_verdict ha)
  rcases hv.publish_cases s payload with ⟨_,hn,_⟩ | ⟨l,hl,hgen,hold,_⟩
  · exact absurd hs hn
  · have hlk : l = k := by
      rw [← hgen, hv.ofGeneration?_eq (Store.find?_spec hl).1] at hk
      exact Option.some.inj hk
    obtain ⟨since,hspan,hready⟩ := (logged_reached analyzer config gate first).span s.id l hl
    refine ⟨l, since, hl, hgen, hlk ▸ hle, hspan, fun s' hs' hid => ?_⟩
    obtain ⟨f,hf,hle'⟩ := hready s' hs' hid
    exact Version.le_trans hle' (hold f hf)

end Runs

theorem event_log_exact (analyzer : Analyzer P) (config : Config) (gate : Option Gate)
    (hg : ∀ g, gate = some g → g.waiting = []) (moves : List Move) :
    let e := reached analyzer config gate moves
    let log := notices analyzer config gate moves
    let attempts := attempts analyzer config gate moves
    e.events = log.map Notice.event ∧
    log.head? = some .started ∧ log.count .started = 1 ∧
    log.filterMap Notice.opened? = (e.store.lifetimes.map (·.id)).reverse ∧
    (∀ id, log.count (.opened id) = log.count (.closed id) + if e.store.contains id then 1 else 0) ∧
    log.filter Notice.isFailure = attempts.filterMap (fun a => a.2.failure? a.1) ∧
    (verdicts analyzer config gate moves = attempts ∨
      ∃ a, verdicts analyzer config gate moves = attempts ++ [a] ∧ e.analysing? = some a.1) ∧
    log.filterMap Notice.ready? =
      (if config.updates then (stored analyzer config gate moves).map (·.1) else []) ∧
    (∀ before after, log = before ++ .down :: after → after = []) ∧
    ∀ before s after, log = before ++ .ready s :: after →
      ∃ first rest l since, moves = first ++ rest ∧ notices analyzer config gate first = before ∧
        (reached analyzer config gate first).store.find? s.id = some l ∧
        l.generation = s.generation ∧ s.version ≤ l.version ∧ Notice.Span before s.id since ∧
        ∀ s', .ready s' ∈ since → s'.id = s.id → s'.version ≤ s.version := by
  intro e log attempts
  have hlog : e.store.Logged log := logged_reached analyzer config gate moves
  refine ⟨events_reached analyzer config gate moves, rfl, ?_, hlog.opened, hlog.balance,
    failures_told analyzer config gate moves, ?_, stored_told analyzer config gate moves, ?_, ?_⟩
  · exact started_once analyzer config gate moves
  · have hst : e.Staffed := staffed_reached analyzer config gate moves
    cases tally_reached analyzer config gate moves with
    | all h => exact Or.inl h
    | called hu h =>
      refine Or.inr ⟨_, h, ?_⟩
      simp only [analysing?, e, (hst.of_analysis hu).2]
      rfl
    | judged hj h =>
      refine Or.inr ⟨_, h, ?_⟩
      simp only [analysing?, e, hj]
      rfl
  · intro before after h
    obtain ⟨first,m,rest,hm,hf,hn⟩ := notice_told h (by simp)
    have hall := (down_stays hg hn rest).2
    rw [← hm, hf] at hall
    have hx := h.symm.trans hall
    simpa using hx
  · intro before s after h
    obtain ⟨first,m,rest,hm,hf,hn⟩ := notice_told h (by simp)
    obtain ⟨l,since,hl,hgen,hle,hspan,hready⟩ := ready_told hn
    exact ⟨first, m :: rest, l, since, hm, hf, hl, hgen, hle, hf ▸ hspan, hready⟩

theorem event_log_exact_reopened :
    let analyzer : Analyzer String := fun call text _ =>
      if call = 1 then .panicked ": index out of range" else .found text
    let config : Config := {}
    let d : DocumentId := ⟨"file:///d"⟩
    let moves : List Move := [.ask (.openDocument d "a"), .turn 0, .turn 0, .turn 0, .ask (.close d),
      .ask (.openDocument d "b"), .ask (.openDocument d "c"), .turn 0, .turn 0, .turn 0, .ask .shutdown,
      .turn 0, .turn 0, .turn 0, .ask (.close d)]
    (∀ g, (none : Option Gate) = some g → g.waiting = []) ∧
    notices analyzer config none moves = [.started, .opened d, .panicked ⟨d,"a",⟨0⟩,1⟩ ": index out of range",
      .closed d, .opened d, .ready ⟨d,"b",⟨0⟩,2⟩, .down] ∧
    (reached analyzer config none moves).events = (notices analyzer config none moves).map Notice.event ∧
    ∃ first rest l since, moves = first ++ rest ∧
      (reached analyzer config none first).store.find? d = some l ∧ l.generation = 2 ∧
      Notice.Span (notices analyzer config none first) d since := by
  intro analyzer config d moves
  have hg : ∀ g, (none : Option Gate) = some g → g.waiting = [] := by simp
  have hlog : notices analyzer config none moves = [.started, .opened d,
      .panicked ⟨d,"a",⟨0⟩,1⟩ ": index out of range", .closed d, .opened d, .ready ⟨d,"b",⟨0⟩,2⟩, .down] := by
    decide +kernel
  obtain ⟨hevents,_,_,_,_,_,_,_,_,hready⟩ := event_log_exact analyzer config none hg moves
  obtain ⟨first,rest,l,since,hmoves,hbefore,hl,hgen,_,hspan,_⟩ :=
    hready [.started, .opened d, .panicked ⟨d,"a",⟨0⟩,1⟩ ": index out of range", .closed d, .opened d]
      _ [.down] hlog
  exact ⟨hg, hlog, hevents, first, rest, l, since, hmoves, hl, hgen, hbefore ▸ hspan⟩

end Service

end LiveAnalysis
