import LiveAnalysis.Proofs.Consumers
import LiveAnalysis.Proofs.EventLog
import LiveAnalysis.Proofs.Gates

namespace LiveAnalysis

variable {P : Type}

namespace Service.Move

def isInner : Move → Bool
  | .ask (.advance _) => true
  | .ask _ => false
  | _ => true

def isMild : Move → Bool
  | .ask (.openDocument _ _) => true
  | .ask (.call (.wait _ _ _ _)) => true
  | .ask (.advance _) => true
  | .ask _ => false
  | _ => true

theorem isMild_of_inner {m : Move} (h : m.isInner = true) : m.isMild = true := by
  cases m with
  | ask r => cases r <;> simp [isInner, isMild] at h ⊢
  | _ => rfl

end Service.Move

def Activity.isMild : Activity P → Bool
  | .call (.wait _ _ _ _) => true
  | .call _ => false
  | .shutdown _ => false
  | _ => true

namespace Store

def Pristine (s : Store P) : Prop :=
  ∀ l ∈ s.lifetimes, l.isOpen = true ∧ l.version = .baseline

theorem Pristine.openDocument {s s' : Store P} (h : s.Pristine) {id : DocumentId} {text : String}
    (hs : s.openDocument id text = .ok s') : s'.Pristine := by
  obtain ⟨_,rfl⟩ := openDocument_ok.mp hs
  intro l hl
  rcases List.mem_cons.mp hl with rfl | hl
  · exact ⟨rfl,rfl⟩
  · exact h l hl

theorem Pristine.absorb {s : Store P} (h : s.Pristine) (hv : s.Valid) (o : Option (Snapshot × Verdict P)) :
    (s.absorb o).Pristine := by
  rcases hv.absorb_cases o with hs | ⟨l,hl,f,_,hs⟩
  · rwa [hs]
  · obtain ⟨hm,_⟩ := mem_openLifetimes.mp hl
    intro l' hl'
    rw [hs, hv.mem_update hm] at hl'
    rcases hl' with rfl | ⟨hl',_⟩
    · exact h l hm
    · exact h l' hl'

end Store

namespace Engine

structure Quiet (e : Engine P) : Prop where
  running : e.stopped = false
  held : e.abandoned = false
  ungated : e.gate = none
  mild : ∀ u a, e.activity? u = some a → a.isMild = true
  documents : e.store.Pristine

section Quiet

variable {w : Worker P} {e e' : Engine P} (h : e.Quiet)

include h

theorem Quiet.keeps (k : e.Keeps e') (hg : e'.gate = e.gate) (hs : e'.store.Pristine) : e'.Quiet where
  running := k.stopped.trans h.running
  held := k.abandoned.trans h.held
  ungated := hg.trans h.ungated
  mild u a hu := h.mild u a (k.activity? u ▸ hu)
  documents := hs

theorem Quiet.arises {t u : Ticket} {a : Activity P} (ha : Arises w e e' t u a) : a.isMild = true := by
  cases ha with
  | kept hu => exact h.mild u a hu
  | closing hu => exact absurd (h.mild _ _ hu) (by simp [Activity.isMild])
  | _ => rfl

theorem Quiet.turned {t : Ticket} (ht : Turned w e t e') (hr : e'.stopped = e.stopped)
    (hg : e'.gate = e.gate) (hs : e'.store.Pristine) : e'.Quiet where
  running := hr.trans h.running
  held := ht.abandoned.trans h.held
  ungated := hg.trans h.ungated
  mild u a hu := h.arises (ht.arises u a hu)
  documents := hs

omit h in
theorem analysisTurn_ungated (hg : e.gate = none) (t owner : Ticket) (s : Snapshot) (c : Option Nat) :
    ∃ calls, e.analysisTurn w t owner s c =
      ({ e with calls } : Engine P).judge w t owner s (c.getD (e.calls + 1)) := by
  cases c with
  | some call => exact ⟨e.calls, rfl⟩
  | none =>
    refine ⟨e.calls + 1, ?_⟩
    simp only [analysisTurn, hg]
    rfl

omit h in
theorem judge_stopped (e : Engine P) (t owner : Ticket) (s : Snapshot) (call : Nat) :
    (e.judge w t owner s call).stopped = e.stopped := by
  obtain ⟨_,_,hd,_⟩ := (e.remove t).deliver_eq owner s (w.analyzer call s.text s.version)
  rw [judge, hd]
  rfl

omit h in
theorem seek_cases (hr : e.stopped = false) (hd : e.queue.shutDown = false) (t : Ticket) :
    (∃ s rest, e.store.firstOpen? e.queue.order = some (s,rest) ∧ e.seek t =
      (({ e with bell := e.bell.answer t, queue := e.queue.leave rest } : Engine P).set t
        (.loop (.underway s))).begin t s) ∨
    e.seek t = ({ e with bell := (e.bell.answer t).wait t, queue := e.queue.leave [] } : Engine P).set t
      (.loop .idle) := by
  unfold seek
  rw [hr, hd]
  cases hf : e.store.firstOpen? e.queue.order with
  | none => exact Or.inr (by simp [hf])
  | some p => exact Or.inl ⟨p.1, p.2, rfl, by simp [hf]⟩

theorem Quiet.loopTurn_stopped (hst : e.Staffed) (t : Ticket) (stage : Stage P) :
    (e.loopTurn w t stage).stopped = e.stopped := by
  have hd : e.queue.shutDown = false := hst.shut.trans h.running
  have hseek : ∀ e₁ : Engine P, e.Keeps e₁ → e₁.queue = e.queue → (e₁.seek t).stopped = e.stopped := by
    intro e₁ k hq
    rcases seek_cases (k.stopped.trans h.running) (hq ▸ hd) t with ⟨_,_,_,he⟩ | he
    · rw [he]
      exact k.stopped
    · rw [he]
      exact k.stopped
  cases stage with
  | idle => exact hseek e (.refl e) rfl
  | underway s => rfl
  | judged s verdict => exact hseek _ (keeps_conclude w e s verdict) (conclude_queue w e s verdict)

theorem Quiet.turn_keeps (hst : e.Staffed) (t : Ticket) :
    (∃ o, (e.turn w t).store = e.store.absorb o) ∧ (e.turn w t).stopped = e.stopped ∧
      (e.turn w t).gate = e.gate := by
  cases hu : e.activity? t with
  | none =>
    rw [turn_of_none w hu]
    exact ⟨⟨none,rfl⟩, rfl, rfl⟩
  | some a =>
    have hne := hst.ticket_ne hu
    cases a with
    | loop stage =>
      simp only [Engine.turn, hu]
      exact ⟨⟨_,loopTurn_store w e t stage⟩, h.loopTurn_stopped hst t stage, loopTurn_gate w e t stage⟩
    | analysis owner s c =>
      obtain ⟨calls,he⟩ := analysisTurn_ungated (w := w) h.ungated t owner s c
      simp only [Engine.turn, hu]
      refine ⟨⟨none,analysisTurn_store w e t owner s c⟩, ?_⟩
      rw [he]
      exact ⟨judge_stopped _ t owner s _, judge_gate w _ t owner s _⟩
    | call c =>
      have hm := h.mild t _ hu
      cases c with
      | wait id atLeast timeout token =>
        simp only [Engine.turn, hu]
        obtain ⟨hs,_,hr,_⟩ := calm_watchFrom (hne (by simp)) e id atLeast timeout token .finding
        exact ⟨⟨none,hs⟩, hr, callTurn_gate e t _⟩
      | _ => simp [Activity.isMild] at hm
    | watch v =>
      simp only [Engine.turn, hu]
      obtain ⟨hs,_,hr,_⟩ := calm_watchTurn (hne (by simp)) e v
      exact ⟨⟨none,hs⟩, hr, watchTurn_gate e t v⟩
    | shutdown begun => exact absurd (h.mild t _ hu) (by simp [Activity.isMild])
    | _ =>
      rcases hst.others t _ (hne (by simp)) hu with hc | ⟨s,c,hc,_⟩
      · simp [Activity.isCaller] at hc
      · simp at hc

theorem Quiet.turn (hst : e.Staffed) (hv : e.store.Valid) (t : Ticket) : (e.turn w t).Quiet := by
  obtain ⟨⟨o,hs⟩,hr,hg⟩ := h.turn_keeps (w := w) hst t
  exact h.turned (Engine.turned w e hv t) hr hg (hs ▸ h.documents.absorb hv o)

theorem Quiet.inner_store (hst : e.Staffed) {m : Service.Move} (hm : m.isInner = true) :
    ∃ o, (e.move w m.engine).store = e.store.absorb o := by
  cases m with
  | ask r =>
    cases r with
    | advance ms => exact ⟨none,rfl⟩
    | _ => simp [Service.Move.isInner] at hm
  | turn place =>
    simp only [Service.Move.engine, Engine.move]
    split
    · exact ⟨none,rfl⟩
    · rename_i t _
      have h' : ({ e with ready := e.ready.eraseIdx place } : Engine P).Quiet := { h with }
      exact (h'.turn_keeps ⟨hst.begun,hst.first,hst.others,hst.sole,hst.shut⟩ t).1
  | alarms => exact ⟨none, wakeAll_store _ _⟩
  | hangUp => exact ⟨none, congrArg Engine.store (hangUp_held h.held)⟩

theorem Quiet.move (ho : e.Orderly) (hst : e.Staffed) {m : Service.Move} (hm : m.isMild = true) :
    (e.move w m.engine).Quiet := by
  cases m with
  | ask r =>
    cases r with
    | openDocument id text =>
      simp only [Service.Move.engine, Engine.move, Service.receive]
      split
      · rename_i hn
        exact h.keeps (keeps_noteOpened hn) (noteOpened_gate hn) (h.documents.openDocument (noteOpened_store hn))
      · exact h
    | call c =>
      cases c with
      | wait id atLeast timeout token =>
        refine ⟨h.running, h.held, h.ungated, fun u a hu => ?_, h.documents⟩
        change (e.start _).activity? u = some a at hu
        rw [activity?_start, Option.or_eq_some_iff] at hu
        rcases hu with hu | ⟨_,hu⟩
        · exact h.mild u a hu
        · split at hu
          · cases hu
            rfl
          · simp at hu
      | _ => simp [Service.Move.isMild] at hm
    | advance ms => exact { h with }
    | _ => simp [Service.Move.isMild] at hm
  | turn place =>
    simp only [Service.Move.engine, Engine.move]
    split
    · exact h
    · rename_i t _
      have h' : ({ e with ready := e.ready.eraseIdx place } : Engine P).Quiet := { h with }
      exact h'.turn ⟨hst.begun,hst.first,hst.others,hst.sole,hst.shut⟩ ho.valid t
  | alarms =>
    have h' : ({ e with alarmed := e.clock } : Engine P).Quiet := { h with }
    have hs : e.soundAlarms.store = e.store := wakeAll_store _ _
    exact h'.keeps (keeps_wakeAll _ _) (wakeAll_gate _ _) (hs.symm ▸ h.documents)
  | hangUp =>
    change e.hangUp.Quiet
    rwa [hangUp_held h.held]

end Quiet

/-! The worker waits for documents, or its next step can be taken at once. -/

inductive Working (e : Engine P) : Prop where
  | idle (hg : e.stage? = some .idle)
  | underway {s u c} (hg : e.stage? = some (.underway s)) (hu : e.activity? u = some (.analysis 0 s c))
    (hr : u ∈ e.ready)
  | judged {s verdict} (hg : e.stage? = some (.judged s verdict)) (hr : 0 ∈ e.ready)

section Working

variable {w : Worker P} {e e' : Engine P}

theorem Working.keeps (h : e.Working) (k : e.Keeps e') : e'.Working := by
  cases h with
  | idle hg => exact .idle (k.stage?.trans hg)
  | underway hg hu hr => exact .underway (k.stage?.trans hg) ((k.activity? _).trans hu) (k.ready _ hr)
  | judged hg hr => exact .judged (k.stage?.trans hg) (k.ready _ hr)

theorem Working.calm (h : e.Working) {m : Move} (hm : Moved w e m e')
    (ht : ∀ t a, e.turning? m = some t → e.activity? t = some a → a.isCaller = true) : e'.Working := by
  have hstays : ∀ u a, e.activity? u = some a → a.isCaller = false →
      e'.activity? u = some a ∧ (u ∈ e.ready → u ∈ e'.ready) := by
    intro u a hu ha
    have hne : e.turning? m ≠ some u := by
      intro hx
      rw [ht u a hx hu] at ha
      simp at ha
    refine ⟨?_, fun hr => (hm.ready u hr).resolve_right hne⟩
    rcases hm.others u a hu with hu' | hx | ⟨_,t,s,c,hx,hc⟩
    · exact hu'
    · exact absurd hx hne
    · have := ht t _ hx hc
      simp [Activity.isCaller] at this
  cases h with
  | idle hg => exact .idle (stage?_eq.mpr (hstays 0 _ (stage?_eq.mp hg) rfl).1)
  | underway hg hu hr =>
    exact .underway (stage?_eq.mpr (hstays 0 _ (stage?_eq.mp hg) rfl).1) (hstays _ _ hu rfl).1
      ((hstays _ _ hu rfl).2 hr)
  | judged hg hr =>
    obtain ⟨h0,hr0⟩ := hstays 0 _ (stage?_eq.mp hg) rfl
    exact .judged (stage?_eq.mpr h0) (hr0 hr)

theorem working_seek (hr : e.stopped = false) (hd : e.queue.shutDown = false) (hn : 0 < e.tickets)
    (hfree : e.activity? e.tickets = none) {stage : Stage P} (hg : e.stage? = some stage) :
    (e.seek 0).Working := by
  have hset : ∀ (e₁ : Engine P) stage', e₁.activities = e.activities →
      (e₁.set 0 (.loop stage')).stage? = some stage' := by
    intro e₁ stage' ha
    refine stage?_eq.mpr (activity?_set_self (a := .loop stage) _ ?_)
    simp only [activity?, ha]
    exact stage?_eq.mp hg
  rcases seek_cases hr hd 0 with ⟨s,rest,_,he⟩ | he
  · rw [he]
    refine .underway (u := e.tickets) (s := s) (c := none) ?_ ?_ ?_
    · rw [begin, stage?_start (by exact hn)]
      exact hset _ _ rfl
    · rw [begin, activity?_start, activity?_set, if_neg (Nat.ne_of_gt hn)]
      change (e.activity? e.tickets).or _ = _
      rw [hfree]
      exact if_pos rfl
    · exact List.mem_append_right _ (List.mem_singleton.mpr rfl)
  · rw [he]
    exact .idle (hset _ _ rfl)

theorem working_judge {t : Ticket} (ht : t ≠ 0) {stage : Stage P} (hg : e.stage? = some stage)
    (s : Snapshot) (call : Nat) : (e.judge w t 0 s call).Working := by
  refine .judged (judge_stage? w ht hg s call) ?_
  have hg' : (e.remove t).activity? 0 = some (.loop stage) := by
    rw [activity?_remove, if_neg (Ne.symm ht)]
    exact stage?_eq.mp hg
  simp only [judge, deliver, hg', wake_eq]
  exact mem_woken.mpr (Or.inr List.mem_cons_self)

theorem Working.move (h : e.Working) (hq : e.Quiet) (ho : e.Orderly) (hst : e.Staffed)
    (m : Service.Move) : (e.move w m.engine).Working := by
  have hmoved := moved w ho m.engine
  cases ht : e.turning? m.engine with
  | none => exact h.calm hmoved (by simp [ht])
  | some t =>
    obtain ⟨ready,he⟩ := move_turning w ht
    cases hu : e.activity? t with
    | none =>
      refine h.calm hmoved fun t' a ht' ha => ?_
      cases ht.symm.trans ht'
      simp [hu] at ha
    | some a =>
      have hcaller : a.isCaller = true → (e.move w m.engine).Working := by
        intro hc
        refine h.calm hmoved fun t' a' ht' ha' => ?_
        cases ht.symm.trans ht'
        cases hu.symm.trans ha'
        exact hc
      have hu' : ({ e with ready } : Engine P).activity? t = some a := hu
      cases a with
      | loop stage =>
        obtain rfl := hst.loop_ticket hu
        have hg : ({ e with ready } : Engine P).stage? = some stage := stage?_eq.mpr hu
        have hd : e.queue.shutDown = false := hst.shut.trans hq.running
        cases stage with
        | idle =>
          rw [he]
          simp only [turn, hu']
          exact working_seek hq.running hd hst.begun ho.free hg
        | underway s =>
          have hrest : e.move w m.engine = { e with ready } := he.trans (by simp only [turn, hu', loopTurn])
          cases h with
          | @underway s' u c hg' hx hr =>
            have hne : e.turning? m.engine ≠ some u := by
              intro hz
              cases ht.symm.trans hz
              simp [hx] at hu
            have hr' := (hmoved.ready u hr).resolve_right hne
            rw [hrest] at hr' ⊢
            exact .underway hg' hx hr'
          | idle hg' => simp [stage?_eq.mpr hu] at hg'
          | judged hg' => simp [stage?_eq.mpr hu] at hg'
        | judged s verdict =>
          have k := keeps_conclude w { e with ready } s verdict
          rw [he]
          simp only [turn, hu']
          refine working_seek (k.stopped.trans hq.running) ?_ ?_ ?_ (k.stage?.trans hg)
          · rw [conclude_queue]
            exact hd
          · rw [k.tickets]
            exact hst.begun
          · rw [k.tickets, k.activity?]
            exact ho.free
      | analysis owner s c =>
        obtain ⟨rfl,hg⟩ := hst.of_analysis hu
        obtain ⟨_,hx⟩ := analysisTurn_ungated (w := w) (e := { e with ready }) hq.ungated t 0 s c
        rw [he]
        simp only [turn, hu', hx]
        exact working_judge (e := { e with ready, calls := _ }) (hst.ticket_ne hu (by simp)) hg s _
      | call c => exact hcaller rfl
      | watch v => exact hcaller rfl
      | shutdown begun => exact hcaller rfl
      | _ =>
        rcases hst.others t _ (hst.ticket_ne hu (by simp)) hu with hc | ⟨s,c,hc,_⟩
        · simp [Activity.isCaller] at hc
        · simp at hc

end Working

theorem isSettled_ready {e : Engine P} (h : e.isSettled = true) : e.ready = [] := by
  simp only [isSettled, Bool.and_eq_true, List.isEmpty_iff] at h
  exact h.1

theorem Working.parked {e : Engine P} (h : e.Working) (ha : e.Awake none) (hr : e.ready = []) :
    e.stage? = some .idle ∧ e.queue.order = [] := by
  cases h with
  | idle hg => exact ⟨hg, (ha.parked hr ((consumes_iff (stage?_eq.mp hg)).mpr (Or.inr rfl))).1⟩
  | underway _ _ hready => simp [hr] at hready
  | judged _ hready => simp [hr] at hready

end Engine

namespace Service

open Engine

variable (analyzer : Analyzer P) (config : Config)

theorem awake_reached (gate : Option Gate) (moves : List Move) :
    (reached analyzer config gate moves).Awake none := by
  induction moves using List.reverseRecOn with
  | nil => exact ((awake_new gate).start (.loop .idle) (by simp)).keeps (keeps_emit _ _) rfl rfl
  | append_singleton moves m ih =>
    rw [reached_concat]
    exact ih.move _ m.engine

variable {analyzer config}

theorem attempted {gate : Option Gate} {moves : List Move} {s : Snapshot} {verdict : Verdict P}
    (h : (s,verdict) ∈ attempts analyzer config gate moves) :
    Had analyzer config gate moves s.generation s.version s.text ∧
      ∃ call, verdict = analyzer call s.text s.version := by
  induction moves using List.reverseRecOn with
  | nil => exact absurd h List.not_mem_nil
  | append_singleton moves m ih =>
    rw [attempts_concat] at h
    rcases List.mem_append.mp h with h | h
    · obtain ⟨hhad,hcall⟩ := ih h
      exact ⟨had_append [m] hhad, hcall⟩
    · obtain ⟨t,_,hu⟩ := Option.bind_eq_some_iff.mp (Option.mem_toList.mp h)
      obtain ⟨a,hu,ha⟩ := Option.bind_eq_some_iff.mp hu
      have hs := sourced_reached analyzer config gate moves
      obtain ⟨hhad,_⟩ := hs.taken t a s hu (Activity.snapshot?_of_verdict ha)
      obtain ⟨call,_,hcall⟩ := hs.judged t s verdict ⟨a,hu,ha⟩
      exact ⟨had_append [m] hhad, call, hcall⟩

def Mild (moves : List Move) : Prop :=
  ∀ m ∈ moves, m.isMild = true

section Mild

variable {moves more : List Move}

theorem mild_append : Mild (moves ++ more) ↔ Mild moves ∧ Mild more :=
  List.forall_mem_append

theorem mild_of_inner (h : ∀ m ∈ moves, m.isInner = true) : Mild moves :=
  fun m hm => m.isMild_of_inner (h m hm)

variable (analyzer config) in
theorem quiet_reached (h : Mild moves) : (reached analyzer config none moves).Quiet := by
  induction moves using List.reverseRecOn with
  | nil =>
    refine ⟨rfl, rfl, rfl, fun u a hu => ?_, fun l hl => absurd hl List.not_mem_nil⟩
    rw [activity?_reached_nil] at hu
    split at hu
    · cases hu
      rfl
    · simp at hu
  | append_singleton moves m ih =>
    obtain ⟨hmoves,hm⟩ := mild_append.mp h
    rw [reached_concat]
    exact (ih hmoves).move (orderly_reached analyzer config none moves)
      (staffed_reached analyzer config none moves) (hm m List.mem_cons_self)

theorem working_reached (h : Mild moves) : (reached analyzer config none moves).Working := by
  induction moves using List.reverseRecOn with
  | nil => exact .idle (stage?_eq.mpr ((activity?_reached_nil analyzer config none 0).trans (if_pos rfl)))
  | append_singleton moves m ih =>
    have hmoves := (mild_append.mp h).1
    rw [reached_concat]
    exact (ih hmoves).move (quiet_reached analyzer config hmoves) (orderly_reached analyzer config none moves)
      (staffed_reached analyzer config none moves) m

theorem stays_open (h : Mild (moves ++ more)) {id : DocumentId} {l : Lifetime P}
    (hl : (reached analyzer config none moves).store.find? id = some l) :
    ∃ l', (reached analyzer config none (moves ++ more)).store.find? id = some l' ∧
      l.Evolves l' ∧ l'.text = l.text := by
  obtain ⟨hm,hid,_⟩ := Store.find?_spec hl
  obtain ⟨l',hm',he⟩ := (later_reached analyzer config none moves more).store.kept l hm
  obtain ⟨ho',hv'⟩ := (quiet_reached analyzer config h).documents l' hm'
  have hv := ((quiet_reached analyzer config (mild_append.mp h).1).documents l hm).2
  refine ⟨l', ?_, he, he.text (hv'.trans hv.symm)⟩
  have hfind := (orderly_reached analyzer config none (moves ++ more)).valid.find?_eq hm' ho'
  rwa [he.id, hid] at hfind

theorem contains_inner (h : Mild moves) (hi : ∀ m ∈ more, m.isInner = true) (id : DocumentId) :
    (reached analyzer config none (moves ++ more)).store.contains id =
      (reached analyzer config none moves).store.contains id := by
  rw [Bool.eq_iff_iff, Store.contains_iff, Store.contains_iff]
  constructor
  · induction more using List.reverseRecOn with
    | nil =>
      rw [List.append_nil]
      exact fun hl => hl
    | append_singleton more m ih =>
      rintro ⟨k,hk⟩
      obtain ⟨hmore,hm⟩ := List.forall_mem_append.mp hi
      have hbefore := mild_append.mpr ⟨h,mild_of_inner hmore⟩
      obtain ⟨o,ho⟩ := (quiet_reached analyzer config hbefore).inner_store (w := ⟨analyzer, config.updates⟩)
        (staffed_reached analyzer config none (moves ++ more)) (hm m List.mem_cons_self)
      rw [← List.append_assoc, reached_concat, ho] at hk
      obtain ⟨l,hl,_⟩ := (orderly_reached analyzer config none (moves ++ more)).valid.absorb_find? o hk
      exact ih hmore ⟨l,hl⟩
  · rintro ⟨l,hl⟩
    obtain ⟨l',hl',_⟩ := stays_open (mild_append.mpr ⟨h,mild_of_inner hi⟩) hl
    exact ⟨l',hl'⟩

theorem analysed (h : Mild moves) (hr : (reached analyzer config none moves).ready = []) {id : DocumentId}
    {l : Lifetime P} (hl : (reached analyzer config none moves).store.find? id = some l) :
    (∃ f, l.slot.latest = some f) ∨ ∃ call, (analyzer call l.text l.version).isFailure = true := by
  have hq := quiet_reached analyzer config h
  obtain ⟨hm,_,ho⟩ := Store.find?_spec hl
  obtain ⟨hg,hempty⟩ := (working_reached h).parked (awake_reached analyzer config none moves) hr
  have hc := (lossless_reached analyzer config none moves hq.running).covered l
    (Store.mem_openLifetimes.mpr ⟨hm,ho⟩)
  cases hc with
  | queued hin => simp [hempty] at hin
  | underway hs => simp [analysing?, hg, Stage.snapshot?] at hs
  | answered hf => exact Or.inl ⟨_,hf⟩
  | failed hlast hfail =>
    obtain ⟨a,ha,rfl⟩ := Option.map_eq_some_iff.mp hlast
    have hsame : a.1.generation = l.generation ∧ a.1.version = l.version := by
      simpa using List.find?_some ha
    obtain ⟨hhad,call,hcall⟩ := attempted (List.mem_reverse.mp (List.mem_of_find?_eq_some ha))
    have hown := (sourced_reached analyzer config none moves).texts l hm
    rw [hsame.1, hsame.2] at hhad
    have htext := had_unique (orderly_reached analyzer config none []) hhad hown
    rw [hcall, htext, hsame.2] at hfail
    exact Or.inr ⟨call,hfail⟩

abbrev asks (id : DocumentId) (timeout : Nat) : Move :=
  .ask (.call (.wait id none timeout none))

theorem terms?_wait {e : Engine P} (hr : e.stopped = false) {id : DocumentId} {l : Lifetime P}
    (hl : e.store.find? id = some l) (timeout : Nat) :
    e.terms? (.wait id none timeout none) = some ⟨id,l.generation,l.version,timeout,none,e.clock⟩ := by
  simp [terms?, hr, hl]

theorem move_call (w : Worker P) {e : Engine P} {ready : List Ticket} {t : Ticket} {c : Call}
    (hr : e.ready = ready ++ [t]) (hu : e.activity? t = some (.call c)) :
    e.move w (.turn ready.length) = ({ e with ready } : Engine P).callTurn t c := by
  have herase : (ready ++ [t]).eraseIdx ready.length = ready := by
    simp [List.eraseIdx_append_of_length_le]
  have hu' : ({ e with ready } : Engine P).activity? t = some (.call c) := hu
  simp only [Engine.move, hr, List.getElem?_concat_length, herase, Engine.turn, hu']

variable (analyzer config) in
theorem call_asked (moves : List Move) (c : Call) :
    (reached analyzer config none (moves ++ [.ask (.call c)])).activity? (reached analyzer config none moves).tickets =
      some (.call c) := by
  rw [reached_concat]
  change ((reached analyzer config none moves).start _).activity? _ = _
  rw [activity?_start, (orderly_reached analyzer config none moves).free]
  exact if_pos rfl

variable (analyzer config) in
theorem asked_ready (moves : List Move) (c : Call) :
    (reached analyzer config none (moves ++ [.ask (.call c)])).ready =
      (reached analyzer config none moves).ready ++ [(reached analyzer config none moves).tickets] := by
  rw [reached_concat]
  rfl

variable (analyzer config) in
theorem asked_turn (moves : List Move) (id : DocumentId) (timeout : Nat) :
    let e := reached analyzer config none (moves ++ [asks id timeout,
      .turn (reached analyzer config none moves).ready.length])
    e.ready = (reached analyzer config none moves).ready ∧ e.clock = (reached analyzer config none moves).clock := by
  intro e
  have hu := call_asked analyzer config moves (.wait id none timeout none)
  have hready := asked_ready analyzer config moves (.wait id none timeout none)
  have hclock : (reached analyzer config none (moves ++ [asks id timeout])).clock =
      (reached analyzer config none moves).clock := by
    rw [reached_concat]
    rfl
  have he : e = ({ reached analyzer config none (moves ++ [asks id timeout]) with
      ready := (reached analyzer config none moves).ready } : Engine P).watchFrom
        (reached analyzer config none moves).tickets id none timeout none .finding := by
    change reached analyzer config none _ = _
    rw [List.append_cons, reached_concat]
    exact move_call _ hready hu
  rcases watchFrom_cases _ _ id none timeout none .finding with ⟨x,hx⟩ | ⟨v,hx,_⟩
  · rw [he, hx]
    exact ⟨rfl,hclock⟩
  · rw [he, hx]
    exact ⟨rfl,hclock⟩

theorem asked_follows (h : Mild moves) {id : DocumentId} {l : Lifetime P}
    (hl : (reached analyzer config none moves).store.find? id = some l) (timeout : Nat) (more : List Move) :
    Follows analyzer config none (moves ++ asks id timeout ::
        .turn (reached analyzer config none moves).ready.length :: more) (reached analyzer config none moves).tickets
      ⟨id,l.generation,.baseline,timeout,none,(reached analyzer config none moves).clock⟩ := by
  have hq := quiet_reached analyzer config h
  have hv := (hq.documents l (Store.find?_spec hl).1).2
  have hr : (reached analyzer config none (moves ++ [asks id timeout])).ready[
      (reached analyzer config none moves).ready.length]? = some (reached analyzer config none moves).tickets := by
    rw [asked_ready, List.getElem?_concat_length]
  rw [List.append_cons]
  refine follows_call hr (call_asked analyzer config moves _) ?_ more
  rw [reached_concat, ← hv]
  exact terms?_wait hq.running hl timeout

theorem had_mild (h : Mild moves) {g : Nat} {v : Version} {text : String}
    (hh : Had analyzer config none moves g v text) : v = .baseline := by
  induction moves using List.reverseRecOn with
  | nil =>
    obtain ⟨x,hx,l,hl,_⟩ := hh
    simp only [List.map_nil, Engine.states, List.mem_singleton] at hx
    rw [hx, (blank_start analyzer config none).lifetimes] at hl
    exact absurd hl List.not_mem_nil
  | append_singleton moves m ih =>
    rcases (had_concat analyzer config none).mp hh with hh | ⟨l,hl,_,rfl,_⟩
    · exact ih (mild_append.mp h).1 hh
    · exact ((quiet_reached analyzer config h).documents l hl).2

theorem EndsIn.since {first : List Move} {t : Ticket} {k : Terms} {x : Ending P} {earlier : List Move} {m : Move}
    (h : EndsIn analyzer config none (first ++ more) t k x earlier m)
    (hn : (t,x) ∉ (reached analyzer config none first).ended) : ∃ mid, earlier ++ [m] = first ++ mid := by
  obtain ⟨later,hs⟩ := h.split
  have hfirst : first <+: first ++ more := List.prefix_append first more
  have hend : earlier ++ [m] <+: first ++ more := ⟨later, by rw [hs]; simp⟩
  rcases List.prefix_or_prefix_of_prefix hfirst hend with ⟨mid,hmid⟩ | ⟨rest,rfl⟩
  · exact ⟨mid,hmid.symm⟩
  · exact absurd (stays_ended_reached h.ended rest).2 hn

theorem Follows.refused {t : Ticket} {k : Terms} {why : Refusal} (hf : Follows analyzer config none moves t k)
    (h : Mild moves) (hk : k.token = none) (hx : (t,.refused why) ∈ (reached analyzer config none moves).ended) :
    ∃ earlier m l, EndsIn analyzer config none moves t k (.refused why) earlier m ∧
      (reached analyzer config none (earlier ++ [m])).store.ofGeneration? k.generation = some l ∧ Lacks l k ∧
      k.deadline ≤ (reached analyzer config none (earlier ++ [m])).clock ∧
      why = .timedOut k.id k.atLeast k.timeout := by
  cases hf with
  | waiting _ hn => exact absurd hx (hn _)
  | @ended y earlier m _ hy he =>
    cases ended_once hx hy
    obtain ⟨later,hs⟩ := he.split
    obtain ⟨l,hl,hres⟩ := he.outcome
    have hq : (reached analyzer config none (earlier ++ [m])).Quiet := by
      rw [hs, List.append_cons] at h
      exact quiet_reached analyzer config (mild_append.mp h).1
    refine ⟨earlier, m, l, he, hl, ?_⟩
    cases hres with
    | closed hc =>
      have ho := (hq.documents l (Store.ofGeneration?_spec hl).1).1
      simp [ho] at hc
    | cancelled _ hc =>
      obtain ⟨token,ht,_⟩ := hc
      simp [hk] at ht
    | shutDown _ _ hr => simp [hq.running] at hr
    | timedOut hlacks _ _ hd => exact ⟨hlacks, hd, rfl⟩

theorem Follows.comes_to_end {t : Ticket} {k : Terms} (hf : Follows analyzer config none moves t k)
    (hs : (reached analyzer config none moves).isSettled = true)
    (hd : k.deadline ≤ (reached analyzer config none moves).clock) :
    ∃ x, (t,x) ∈ (reached analyzer config none moves).ended := by
  cases hf with
  | ended _ hx => exact ⟨_,hx⟩
  | waiting hu =>
    obtain ⟨hready,hclock⟩ : (reached analyzer config none moves).ready = [] ∧
      (reached analyzer config none moves).clock ≤ (reached analyzer config none moves).alarmed := by
        simpa [isSettled] using hs
    have ho := orderly_reached analyzer config none moves
    obtain ⟨l,hl,_⟩ := ho.watched t k.watch hu
    have hn := attentive_reached analyzer config none moves t k.watch hu (by simp [hready])
    have hearly := ((outcome?_pending ho hclock hl).mp hn).early
    omega

theorem Follows.not_early {t : Ticket} {k : Terms} {why : Refusal} (hf : Follows analyzer config none moves t k)
    (h : Mild moves) (hk : k.token = none) (hd : (reached analyzer config none moves).clock < k.deadline) :
    (t,.refused why) ∉ (reached analyzer config none moves).ended := by
  intro hx
  obtain ⟨earlier,m,_,he,_,_,hlate,_⟩ := hf.refused h hk hx
  obtain ⟨later,hs⟩ := he.split
  have hclock := (later_reached analyzer config none (earlier ++ [m]) later).clock
  rw [List.append_assoc, List.singleton_append, ← hs] at hclock
  omega

theorem wait_ends {first rest : List Move} {place : Nat} {t : Ticket} {id : DocumentId} {timeout : Nat}
    {l : Lifetime P} {x : Ending P} (h : Mild (first ++ .turn place :: rest))
    (hr : (reached analyzer config none first).ready[place]? = some t)
    (hu : (reached analyzer config none first).activity? t = some (.call (.wait id none timeout none)))
    (hl : (reached analyzer config none first).store.find? id = some l)
    (hx : (t,x) ∈ (reached analyzer config none (first ++ .turn place :: rest)).ended) :
    (∃ f call, x = .found f ∧ f.version = .baseline ∧ analyzer call l.text .baseline = .found f.payload) ∨
      x = .refused (.timedOut id .baseline timeout) := by
  have hq := quiet_reached analyzer config (mild_append.mp h).1
  have hm := (Store.find?_spec hl).1
  have hv := (hq.documents l hm).2
  have hf := follows_call hr hu (terms?_wait hq.running hl timeout) rest
  have hcases : (∃ f, x = .found f) ∨ ∃ why, x = .refused why := by
    cases hf with
    | waiting _ hn => exact absurd hx (hn x)
    | ended _ hy he =>
      cases ended_once hx hy
      obtain ⟨_,_,hres⟩ := he.outcome
      cases hres with
      | found => exact Or.inl ⟨_,rfl⟩
      | _ => exact Or.inr ⟨_,rfl⟩
  rcases hcases with ⟨f,rfl⟩ | ⟨why,rfl⟩
  · obtain ⟨_,_,_,_,call,s,_,_,_,hsv,hfound,hhad⟩ := found_computed hf hx
    have hbase := had_mild h hhad
    have hown := had_append (.turn place :: rest) ((sourced_reached analyzer config none first).texts l hm)
    rw [hbase] at hsv hhad
    rw [hv] at hown
    rw [hsv, had_unique (orderly_reached analyzer config none []) hhad hown] at hfound
    exact Or.inl ⟨f, call, rfl, hbase, hfound⟩
  · obtain ⟨_,_,_,_,_,_,_,rfl⟩ := hf.refused h rfl hx
    rw [hv]
    exact Or.inr rfl

theorem asked_ends {before later : List Move} {id : DocumentId} {timeout : Nat} {l : Lifetime P} {x : Ending P}
    (h : Mild (before ++ asks id timeout :: later))
    (hl : (reached analyzer config none before).store.find? id = some l)
    (hx : ((reached analyzer config none before).tickets,x) ∈
      (reached analyzer config none (before ++ asks id timeout :: later)).ended) :
    (∃ f call, x = .found f ∧ f.version = .baseline ∧ analyzer call l.text .baseline = .found f.payload) ∨
      x = .refused (.timedOut id .baseline timeout) := by
  rw [List.append_cons] at h hx
  obtain ⟨waited,place,rest,rfl,hu,hr⟩ := first_turn (call_asked analyzer config before _) rfl hx
  rw [← List.append_assoc] at h hx
  have hfirst := (mild_append.mp h).1
  rw [List.append_assoc] at hfirst
  obtain ⟨k,hk,_,htext⟩ := stays_open hfirst hl
  rw [← List.append_assoc] at hk
  rw [← htext]
  exact wait_ends h hr hu hk hx

theorem not_found (h : Mild moves) {id : DocumentId} {l : Lifetime P}
    (hl : (reached analyzer config none moves).store.find? id = some l)
    (hn : ∀ call payload, analyzer call l.text .baseline ≠ .found payload) : l.slot.latest = none := by
  cases hf : l.slot.latest with
  | none => rfl
  | some f =>
    have hs := sourced_reached analyzer config none moves
    obtain ⟨hm,_,_⟩ := Store.find?_spec hl
    obtain ⟨_,_,call,s,hc⟩ := hs.findings l hm f hf
    have hbase := had_mild h hc.had_text
    have hown := hs.texts l hm
    have hhad := hc.had_text
    have hfound := hc.found
    rw [((quiet_reached analyzer config h).documents l hm).2] at hown
    rw [hbase] at hhad
    rw [hc.same_version, hbase, had_unique (orderly_reached analyzer config none []) hhad hown] at hfound
    exact absurd hfound (hn call f.payload)

theorem refused_late {t : Ticket} {k : Terms} {why : Refusal} {id : DocumentId} {l : Lifetime P}
    (h : Mild (moves ++ more)) (hr : (reached analyzer config none moves).ready = [])
    (hl : (reached analyzer config none moves).store.find? id = some l)
    (hf : Follows analyzer config none (moves ++ more) t k) (hk : k.token = none)
    (hg : k.generation = l.generation) (hv : k.atLeast = .baseline)
    (hn : (t,.refused why) ∉ (reached analyzer config none moves).ended)
    (hx : (t,.refused why) ∈ (reached analyzer config none (moves ++ more)).ended) :
    ∃ call, (analyzer call l.text l.version).isFailure = true := by
  rcases analysed (mild_append.mp h).1 hr hl with ⟨f,hlatest⟩ | hfail
  · obtain ⟨earlier,m,k',he,hk',hlacks,_⟩ := hf.refused h hk hx
    obtain ⟨mid,hmid⟩ := he.since hn
    obtain ⟨l',hl',hev⟩ := (later_reached analyzer config none moves mid).store.kept l (Store.find?_spec hl).1
    rw [← hmid] at hl'
    obtain ⟨hkm,hkg⟩ := Store.ofGeneration?_spec hk'
    have hvalid := (orderly_reached analyzer config none (earlier ++ [m])).valid
    obtain rfl := hvalid.eq_of_generation hl' hkm ((hev.generation.trans hg.symm).trans hkg.symm)
    obtain ⟨f',hf',_⟩ := hev.latest f hlatest
    have hlt := hlacks.older f' hf'
    rw [hv] at hlt
    exact absurd hlt (Nat.not_lt_zero _)
  · exact hfail

end Mild

end Service

end LiveAnalysis
