import LiveAnalysis.Proofs.Analyses
import LiveAnalysis.Proofs.Wakes
import LiveAnalysis.Proofs.Writes

namespace LiveAnalysis

variable {P : Type}

def Request.needsRunning : Request → Bool
  | .openDocument _ _ => true
  | .change _ _ => true
  | .close _ => true
  | .analyse _ => true
  | .analyseAll ids => !ids.isEmpty
  | _ => false

def Activity.waits : Activity P → Bool
  | .call _ => true
  | .watch _ => true
  | _ => false

namespace Store

theorem Valid.absorb_snapshot {s : Store P} (h : s.Valid) (o : Option (Snapshot × Verdict P))
    (id : DocumentId) :
    ((s.absorb o).find? id).map Lifetime.snapshot = (s.find? id).map Lifetime.snapshot := by
  cases hk : (s.absorb o).find? id with
  | some k =>
    obtain ⟨l,hl,hsnap⟩ := h.absorb_find? o hk
    simp [hl, hsnap]
  | none =>
    cases hl : s.find? id with
    | none => rfl
    | some l =>
      obtain ⟨hm,hid,ho⟩ := find?_spec hl
      obtain ⟨l',hl',hid'⟩ := h.absorb_after o (mem_openLifetimes.mpr ⟨hm,ho⟩)
      obtain ⟨hm',ho'⟩ := mem_openLifetimes.mp hl'
      exact absurd (hid'.trans hid) (find?_eq_none.mp hk l' hm' ho')

theorem Valid.openLifetimes_update {s : Store P} (h : s.Valid) {l : Lifetime P} (hl : l ∈ s.lifetimes)
    {f : Lifetime P → Lifetime P} (ho : (f l).isOpen = l.isOpen) :
    (s.update l.generation f).openLifetimes =
      s.openLifetimes.map fun x => if x.generation = l.generation then f x else x := by
  simp only [openLifetimes, Store.update, List.filter_map]
  congr 1
  refine List.filter_congr fun x hx => ?_
  by_cases hg : x.generation = l.generation
  · simp only [Function.comp, if_pos hg]
    rw [h.eq_of_generation hx hl hg, ho]
  · simp only [Function.comp, if_neg hg]

theorem Valid.absorb_ids {s : Store P} (h : s.Valid) (o : Option (Snapshot × Verdict P)) :
    (s.absorb o).ids = s.ids := by
  rcases h.absorb_cases o with hs | ⟨l,hl,f,_,hs⟩
  · rw [hs]
  · obtain ⟨hm,_⟩ := mem_openLifetimes.mp hl
    rw [hs, ids, h.openLifetimes_update hm rfl, List.map_map, ids]
    refine congrArg (List.mergeSort · _) (List.map_congr_left fun x _ => ?_)
    by_cases hg : x.generation = l.generation <;> simp [hg]

theorem Valid.absorb_latest {s : Store P} (h : s.Valid) {o : Option (Snapshot × Verdict P)}
    {id : DocumentId} {k : Lifetime P} (hk : (s.absorb o).find? id = some k) :
    (∃ l, s.find? id = some l ∧ k.slot.latest = l.slot.latest) ∨
      ∃ snap payload, o = some (snap, .found payload) ∧ snap.id = id ∧
        k.slot.latest = some ⟨snap.id, snap.version, payload⟩ := by
  unfold Store.absorb at hk
  split at hk
  · rename_i snap payload
    rcases h.publish_cases snap payload with ⟨hs,_⟩ | ⟨l,hl,_,_,hs⟩
    · rw [hs] at hk
      exact Or.inl ⟨k,hk,rfl⟩
    · rw [hs] at hk
      obtain ⟨hm,hid,ho⟩ := find?_spec hk
      obtain ⟨hlm,hlid,_⟩ := find?_spec hl
      rcases (h.mem_update hlm).mp hm with rfl | ⟨hm,_⟩
      · exact Or.inr ⟨snap, payload, rfl, hlid.symm.trans hid, rfl⟩
      · exact Or.inl ⟨k, hid ▸ h.find?_eq hm ho, rfl⟩
  · exact Or.inl ⟨k,hk,rfl⟩

end Store

namespace Engine

theorem Acts.gone {w : Worker P} {e e' : Engine P} {ids : List DocumentId}
    {o : Option (Snapshot × Verdict P)} (h : Acts w e e' ids o) (hn : e.stage? = none) :
    e'.stage? = none := by
  cases h with
  | rests _ _ _ hg => exact hg.trans hn
  | opens _ _ _ hg => exact hg.trans hn
  | changes _ _ _ hg => exact hg.trans hn
  | closes _ _ _ hg => exact hg.trans hn
  | requests _ _ _ _ _ hg => exact hg.trans hn
  | judges _ _ _ _ _ hg => simp [hg] at hn
  | takes hg => simp [hg] at hn
  | parks hg => simp [hg] at hn
  | leaves hg => simp [hg] at hn
  | shuts _ _ _ _ hg => exact hg.trans hn

structure Awaited (analyzer : Analyzer P) (asked : Nat × Snapshot → Prop) (e : Engine P) (s : Snapshot)
    (payload : P) : Prop where
  underway : e.analysing? = some s
  found : ∃ call, asked (call,s) ∧ analyzer call s.text s.version = .found payload

inductive WindsDown (w : Worker P) (asked : Nat × Snapshot → Prop) (e₀ e : Engine P) : Prop where
  | goes (hs : e.store = e₀.store) (hg : e.analysing? = e₀.analysing?)
  | gone (hs : e.store = e₀.store) (hg : e.stage? = none)
  | published {s payload} (hg : e.stage? = none) (h : e₀.Awaited w.analyzer asked s payload)
    (hs : e.store = (e₀.store.publish s payload).1)

theorem Awaited.mono {analyzer : Analyzer P} {asked asked' : Nat × Snapshot → Prop} {e : Engine P}
    {s : Snapshot} {payload : P} (h : e.Awaited analyzer asked s payload)
    (ha : ∀ c, asked c → asked' c) : e.Awaited analyzer asked' s payload := by
  obtain ⟨call,hc,hf⟩ := h.found
  exact ⟨h.underway, call, ha _ hc, hf⟩

theorem WindsDown.acts {w : Worker P} {had : Nat → Version → String → Prop}
    {asked asked' : Nat × Snapshot → Prop} {e₀ e e' : Engine P} {ids : List DocumentId}
    {o : Option (Snapshot × Verdict P)} (h : WindsDown w asked e₀ e) (hs : Sourced w had asked e)
    (hc : ∀ c, asked c → asked' c) (ha : Acts w e e' ids o) (hr : e.stopped = true) :
    WindsDown w asked' e₀ e' := by
  have hsame : e'.store = e.store → e'.analysing? = e.analysing? →
      (e.stage? = none → e'.stage? = none) → WindsDown w asked' e₀ e' := by
    intro hst hg hn
    cases h with
    | goes hs₀ hg₀ => exact .goes (hst.trans hs₀) (hg.trans hg₀)
    | gone hs₀ hg₀ => exact .gone (hst.trans hs₀) (hn hg₀)
    | published hg₀ h₀ hs₀ => exact .published (hn hg₀) (h₀.mono hc) (hst.trans hs₀)
  have hgone : ∀ {stage}, e.stage? = some stage → e.store = e₀.store ∧ e.analysing? = e₀.analysing? := by
    intro stage hg
    cases h with
    | goes hs₀ hg₀ => exact ⟨hs₀,hg₀⟩
    | gone _ hn => simp [hn] at hg
    | published hn => simp [hn] at hg
  cases ha with
  | rests hst _ _ hg => exact hsame hst (analysing?_congr hg) (hg.trans ·)
  | opens _ _ _ _ hrun => simp [hr] at hrun
  | changes _ _ _ _ hrun => simp [hr] at hrun
  | closes _ _ _ _ hrun => simp [hr] at hrun
  | requests _ _ hst _ _ hg => exact hsame hst (analysing?_congr hg) (hg.trans ·)
  | judges _ _ hst _ _ hg hg' =>
    refine hsame hst ?_ (fun hn => by simp [hg] at hn)
    rw [analysing?, analysing?, hg, hg']
    rfl
  | takes _ _ _ hrun => simp [hr] at hrun
  | parks _ _ _ hrun => simp [hr] at hrun
  | @leaves stage hg hn hst _ _ _ hg' =>
    obtain ⟨hs₀,hg₀⟩ := hgone hg
    cases stage with
    | idle => exact .gone (hst.trans hs₀) hg'
    | underway s => exact absurd rfl (hn s)
    | judged s verdict =>
      obtain ⟨call,hcall,hver⟩ := hs.judged 0 s verdict ⟨_,stage?_eq.mp hg,rfl⟩
      have hsnap : e₀.analysing? = some s := by
        rw [← hg₀, analysing?, hg]
        rfl
      cases verdict with
      | found payload =>
        refine .published hg' ⟨hsnap, call, hc _ hcall, hver.symm⟩ ?_
        rw [← hs₀]
        exact hst
      | failed reason => exact .gone (hst.trans hs₀) hg'
      | panicked => exact .gone (hst.trans hs₀) hg'
  | shuts hrun => simp [hr] at hrun

theorem callTurn_stopped {e : Engine P} (h : e.stopped = true) (t : Ticket) (c : Call) :
    ∃ why, e.callTurn t c = e.finish t (.refused why) ∧
      (why = .shutDown ∨ ∃ id timeout, c = .query id timeout ∧ why = .notOpen id) := by
  have hfrom : ∀ id atLeast timeout token goal,
      e.watchFrom t id atLeast timeout token goal = e.finish t (.refused .shutDown) := by
    intro id atLeast timeout token goal
    simp [watchFrom, newWatch, ensureRunning, h, bind, Except.bind]
  cases c with
  | wait id atLeast timeout token => exact ⟨_, hfrom _ _ _ _ _, Or.inl rfl⟩
  | openAndWait id text timeout =>
    refine ⟨.shutDown, ?_, Or.inl rfl⟩
    simp [callTurn, noteOpened, ensureRunning, h, bind, Except.bind]
  | changeAndWait id text timeout =>
    refine ⟨.shutDown, ?_, Or.inl rfl⟩
    simp [callTurn, noteChanged, ensureRunning, h, bind, Except.bind]
  | query id timeout =>
    simp only [callTurn]
    cases hl : e.store.find? id with
    | none =>
      simp only [Store.get, hl]
      exact ⟨_, rfl, Or.inr ⟨id,timeout,rfl,rfl⟩⟩
    | some l =>
      simp only [Store.get, hl]
      exact ⟨_, hfrom _ _ _ _ _, Or.inl rfl⟩

theorem outcome?_stopped {e : Engine P} (h : e.stopped = true) (v : Watch) : e.outcome? v ≠ none := by
  simp only [outcome?, h, if_true]
  split
  · simp
  · split <;> simp

theorem waits_move (w : Worker P) {e : Engine P} (ho : e.Orderly) (m : Move) {u : Ticket}
    {a : Activity P} (hu : e.activity? u = some a) (ha : a.waits = true) :
    (∃ b, (e.move w m).activity? u = some b ∧ b.waits = true) ∨ ∃ x, (u,x) ∈ (e.move w m).ended := by
  have hw : a.isWorker = false := by
    cases a <;> simp [Activity.waits, Activity.isWorker] at ha ⊢
  by_cases ht : e.turning? m = some u
  · obtain ⟨ready,he⟩ := move_turning w ht
    rw [he]
    have hacted : Acted ({ e with ready } : Engine P) u (({ e with ready } : Engine P).turn w u) := by
      have hu' : ({ e with ready } : Engine P).activity? u = some a := hu
      cases a with
      | call c =>
        simp only [turn, hu']
        exact acted_callTurn hu' c
      | watch v =>
        simp only [turn, hu']
        exact acted_watchTurn hu' v
      | _ => simp [Activity.waits] at ha
    cases hacted with
    | watches v hv => exact Or.inl ⟨_,hv,rfl⟩
    | ends x _ hx =>
      rw [hx]
      exact Or.inr ⟨x, List.mem_append_right _ (List.mem_singleton.mpr rfl)⟩
  · exact Or.inl ⟨a, (moved w ho m).still_waits hu hw ht, ha⟩

theorem shutdownTurn_stopped (e : Engine P) (t : Ticket) : (e.shutdownTurn t false).stopped = true := by
  simp only [shutdownTurn]
  split
  · assumption
  · split <;> exact e.keeps_shutDown.stopped

theorem shutdownTurn_stage? (e : Engine P) {t : Ticket} (ht : t ≠ 0) :
    (e.shutdownTurn t false).stage? = e.stage? := by
  have hk := e.keeps_shutDown
  simp only [shutdownTurn]
  split
  · exact stage?_finish ht _
  · split
    · exact (stage?_set ht _).trans hk.stage?
    · exact (stage?_finish ht _).trans hk.stage?

theorem hasLoop_of_stage {e : Engine P} {stage : Stage P} (h : e.stage? = some stage) :
    e.hasLoop = true :=
  List.any_eq_true.mpr ⟨_, mem_of_activity? (stage?_eq.mp h), rfl⟩

/-- A shutdown that has begun waits for the worker, or has ended after it. -/
inductive Closes (e : Engine P) (t : Ticket) : Prop where
  | waits (hu : e.activity? t = some (.shutdown true))
  | ended (hx : (t,.down) ∈ e.ended) (hg : e.stage? = none)

theorem closes_first {e : Engine P} {t : Ticket} (ht : t ≠ 0) (hs : e.stopped = false)
    (hu : e.activity? t = some (.shutdown false)) : Closes (e.shutdownTurn t false) t := by
  have hstage := e.shutdownTurn_stage? ht
  have hk := e.keeps_shutDown
  simp only [shutdownTurn, hs, Bool.false_eq_true, if_false] at hstage ⊢
  split
  · exact .waits (activity?_set_self _ ((hk.activity? t).trans hu))
  · rename_i hloop
    rw [if_neg hloop] at hstage
    refine .ended (List.mem_append_right _ (List.mem_singleton.mpr rfl)) (hstage.trans ?_)
    cases hg : e.stage? with
    | none => rfl
    | some stage => exact absurd (hasLoop_of_stage (hk.stage?.trans hg)) hloop

theorem Closes.move {w : Worker P} {e : Engine P} {t : Ticket} (h : Closes e t) (hd : e.Tidy none)
    (ho : e.Orderly) (hst : e.Staffed) (m : Service.Move) : Closes (e.move w m.engine) t := by
  have hm := moved w ho m.engine
  cases h with
  | ended hx hg => exact .ended (hm.still_ended ho hx).2 ((acts w hst m).gone hg)
  | waits hu =>
    by_cases ht : e.turning? m.engine = some t
    · have hin : t ∈ e.ready := by
        cases m <;> simp [turning?, Service.Move.engine] at ht
        exact List.mem_of_getElem? ht
      have hg := (acts w hst m).gone (hd.held t hu hin)
      obtain ⟨ready,he⟩ := move_turning w ht
      have hu' : ({ e with ready } : Engine P).activity? t = some (.shutdown true) := hu
      refine .ended ?_ hg
      rw [he]
      simp only [turn, hu']
      exact List.mem_append_right _ (List.mem_singleton.mpr rfl)
    · exact .waits (hm.still_waits hu rfl ht)

end Engine

namespace Service

open Engine

theorem receive_stopped {s : Service P} (h : s.engine.stopped = true) {r : Request}
    (hr : r.needsRunning = true) : s.receive r = (s, .refused .shutDown) := by
  cases r with
  | openDocument id text => simp [receive, noteOpened, ensureRunning, h, bind, Except.bind]
  | change id text => simp [receive, noteChanged, ensureRunning, h, bind, Except.bind]
  | close id => simp [receive, noteClosed, ensureRunning, h, bind, Except.bind]
  | analyse id => simp [receive, requestAnalysis, ensureRunning, h, bind, Except.bind]
  | analyseAll ids =>
    cases ids with
    | nil => simp [Request.needsRunning] at hr
    | cons id ids =>
      simp [receive, requestAnalyses, requestAnalysis, ensureRunning, h, bind, Except.bind]
  | _ => simp [Request.needsRunning] at hr

theorem reads_congr {s s' : Service P} (h : s'.engine.store = s.engine.store) (id : DocumentId) :
    s'.document id = s.document id ∧ s'.version id = s.version id ∧ s'.latest id = s.latest id ∧
      s'.documents = s.documents := by
  simp only [document, version, latest, documents, h, and_self]

theorem reads_published {s s' : Service P} (hv : s.engine.store.Valid) {snap : Snapshot} {payload : P}
    (h : s'.engine.store = (s.engine.store.publish snap payload).1) (id : DocumentId) :
    s'.document id = s.document id ∧ s'.version id = s.version id ∧
      (s'.latest id = s.latest id ∨
        snap.id = id ∧ s'.latest id = .ok (some ⟨snap.id, snap.version, payload⟩)) ∧
      s'.documents = s.documents := by
  have hs : s'.engine.store = s.engine.store.absorb (some (snap, .found payload)) := h
  have hsnap := hv.absorb_snapshot (some (snap, .found payload)) id
  have hids := hv.absorb_ids (some (snap, .found payload))
  rw [← hs] at hsnap hids
  cases hk : s'.engine.store.find? id with
  | none =>
    rw [hk] at hsnap
    have hl := Option.map_eq_none_iff.mp hsnap.symm
    refine ⟨?_, ?_, Or.inl ?_, hids⟩ <;> simp only [document, version, latest, Store.get, hk, hl]
  | some k =>
    rw [hk] at hsnap
    obtain ⟨l,hl,hlk⟩ := Option.map_eq_some_iff.mp hsnap.symm
    simp only [Lifetime.snapshot, Snapshot.mk.injEq] at hlk
    obtain ⟨_,htext,hversion,_⟩ := hlk
    refine ⟨?_, ?_, ?_, hids⟩
    · simp only [document, Store.get, hk, hl, Except.map, htext, hversion]
    · simp only [version, Store.get, hk, hl, Except.map, hversion]
    · simp only [latest, Store.get, hk, hl, Except.map]
      rcases hv.absorb_latest (hs ▸ hk) with ⟨l',hl',hlatest⟩ | ⟨_,_,ho,hid,hlatest⟩
      · cases hl.symm.trans hl'
        exact Or.inl (congrArg Except.ok hlatest)
      · cases ho
        exact Or.inr ⟨hid, congrArg Except.ok hlatest⟩

variable {analyzer : Analyzer P} {config : Config} {gate : Option Gate}

theorem still_stopped {moves : List Move} (h : (reached analyzer config gate moves).stopped = true)
    (more : List Move) : (reached analyzer config gate (moves ++ more)).stopped = true :=
  (later_reached analyzer config gate moves more).stopped h

theorem picked_stopped {moves : List Move} (h : (reached analyzer config gate moves).stopped = true)
    (more : List Move) : picked analyzer config gate (moves ++ more) = picked analyzer config gate moves := by
  induction more using List.reverseRecOn with
  | nil => rw [List.append_nil]
  | append_singleton more m ih =>
    rw [← List.append_assoc, picked_concat, ih]
    cases hp : (reached analyzer config gate (moves ++ more)).picked? ⟨analyzer, config.updates⟩ m.engine with
    | none => exact List.append_nil _
    | some s =>
      have hrun := (picked?_some (orderly_reached analyzer config gate _)
        (staffed_reached analyzer config gate _) hp).running
      rw [still_stopped h more] at hrun
      simp at hrun

theorem wait_goes_on {moves : List Move} {u : Ticket} {a : Activity P}
    (hu : (reached analyzer config gate moves).activity? u = some a) (ha : a.waits = true)
    (more : List Move) :
    (∃ b, (reached analyzer config gate (moves ++ more)).activity? u = some b ∧ b.waits = true) ∨
      ∃ x, (u,x) ∈ (reached analyzer config gate (moves ++ more)).ended := by
  induction more using List.reverseRecOn with
  | nil => exact Or.inl ⟨a, by rwa [List.append_nil], ha⟩
  | append_singleton more m ih =>
    have ho := orderly_reached analyzer config gate (moves ++ more)
    rw [← List.append_assoc, reached_concat]
    rcases ih with ⟨b,hb,hw⟩ | ⟨x,hx⟩
    · exact waits_move _ ho m.engine hb hw
    · exact Or.inr ⟨x, ((moved _ ho m.engine).still_ended ho hx).2⟩

theorem nobody_waits {moves : List Move} (hg : ∀ g, gate = some g → g.waiting = [])
    (hr : (reached analyzer config gate moves).stopped = true)
    (hs : (reached analyzer config gate moves).isSettled = true) {u : Ticket} {a : Activity P}
    (hu : (reached analyzer config gate moves).activity? u = some a) : a.waits = false := by
  have hready : (reached analyzer config gate moves).ready = [] := by
    simp only [isSettled, Bool.and_eq_true, List.isEmpty_iff] at hs
    exact hs.1
  cases a with
  | call c =>
    have hin := (tidy_reached analyzer config hg moves).eager u _ hu rfl rfl (by simp)
    simp [hready] at hin
  | watch v =>
    have hn := attentive_reached analyzer config gate moves u v hu (by simp [hready])
    exact absurd hn (outcome?_stopped hr v)
  | _ => rfl

theorem turn_ready (s : Service P) {i : Nat} {u : Ticket} {a : Activity P}
    (hi : s.engine.ready[i]? = some u) (hu : s.engine.activity? u = some a) :
    ∃ e : Engine P, e = { s.engine with ready := s.engine.ready.eraseIdx i } ∧
      (s.move (.turn i)).engine = e.turn s.worker u ∧ e.activity? u = some a := by
  refine ⟨_, rfl, ?_, hu⟩
  simp only [Service.move, Engine.move, hi]

theorem calls_refused {s : Service P} (h : s.engine.stopped = true) {i : Nat} {u : Ticket} {c : Call}
    (hi : s.engine.ready[i]? = some u) (hu : s.engine.activity? u = some (.call c)) :
    ∃ why, (s.move (.turn i)).engine =
        ({ s.engine with ready := s.engine.ready.eraseIdx i } : Engine P).finish u (.refused why) ∧
      (why = .shutDown ∨ ∃ id timeout, c = .query id timeout ∧ why = .notOpen id) := by
  obtain ⟨e,he,hturn,hu'⟩ := s.turn_ready hi hu
  have hstop : e.stopped = true := he ▸ h
  rw [hturn, ← he]
  simp only [turn, hu']
  exact callTurn_stopped hstop u c

theorem shutdown_again {s : Service P} (h : s.engine.stopped = true) {i : Nat} {u : Ticket}
    (hi : s.engine.ready[i]? = some u) (hu : s.engine.activity? u = some (.shutdown false)) :
    (s.move (.turn i)).engine =
      ({ s.engine with ready := s.engine.ready.eraseIdx i } : Engine P).finish u .down := by
  obtain ⟨e,he,hturn,hu'⟩ := s.turn_ready hi hu
  have hstop : e.stopped = true := he ▸ h
  rw [hturn, ← he]
  simp only [turn, hu', shutdownTurn, hstop, if_true]

section Shutdown

variable {before : List Move} {place : Nat} {t : Ticket}
  (ht : (reached analyzer config gate before).ready[place]? = some t)
  (hc : (reached analyzer config gate before).activity? t = some (.shutdown false))

include ht hc

theorem shutdown_turn : ∃ ready, reached analyzer config gate (before ++ [.turn place]) =
    ({ reached analyzer config gate before with ready } : Engine P).shutdownTurn t false := by
  have hm : (reached analyzer config gate before).turning? (.turn place) = some t := ht
  obtain ⟨ready,he⟩ := move_turning ⟨analyzer, config.updates⟩ hm
  have hu : ({ reached analyzer config gate before with ready } : Engine P).activity? t =
    some (.shutdown false) := hc
  refine ⟨ready, ?_⟩
  rw [reached_concat]
  exact he.trans (by simp only [turn, hu])

theorem shutdown_stopped (more : List Move) :
    (reached analyzer config gate (before ++ .turn place :: more)).stopped = true := by
  obtain ⟨ready,he⟩ := shutdown_turn ht hc
  rw [List.append_cons]
  refine still_stopped ?_ more
  rw [he]
  exact shutdownTurn_stopped _ t

theorem shutdown_first_stage : (reached analyzer config gate (before ++ [.turn place])).stage? =
    (reached analyzer config gate before).stage? := by
  obtain ⟨ready,he⟩ := shutdown_turn ht hc
  have hne := (staffed_reached analyzer config gate before).ticket_ne hc (by simp)
  rw [he]
  exact shutdownTurn_stage? _ hne

theorem shutdown_picked (more : List Move) :
    picked analyzer config gate (before ++ .turn place :: more) = picked analyzer config gate before := by
  rw [List.append_cons, picked_stopped (shutdown_stopped ht hc []), picked_concat]
  cases hp : (reached analyzer config gate before).picked? ⟨analyzer, config.updates⟩
      (Move.turn place).engine with
  | none => exact List.append_nil _
  | some s =>
    have h := picked?_some (orderly_reached analyzer config gate _)
      (staffed_reached analyzer config gate _) hp
    have hs := shutdown_first_stage ht hc
    rw [reached_concat, h.begun] at hs
    exact absurd hs.symm (h.free s)

theorem shutdown_winds_down (more : List Move) : WindsDown ⟨analyzer, config.updates⟩
    (· ∈ consulted analyzer config gate (before ++ .turn place :: more))
    (reached analyzer config gate before)
    (reached analyzer config gate (before ++ .turn place :: more)) := by
  induction more using List.reverseRecOn with
  | nil =>
    refine .goes ?_ (analysing?_congr (shutdown_first_stage ht hc))
    obtain ⟨ready,he⟩ := shutdown_turn ht hc
    rw [he]
    exact shutdownTurn_store _ t false
  | append_singleton more m ih =>
    have hr := shutdown_stopped ht hc more
    rw [← List.cons_append, ← List.append_assoc, reached_concat]
    exact ih.acts (sourced_reached analyzer config gate _) (fun _ => consulted_append [m])
      (acts _ (staffed_reached analyzer config gate _) m) hr

theorem shutdown_closes (hg : ∀ g, gate = some g → g.waiting = [])
    (hr : (reached analyzer config gate before).stopped = false) (more : List Move) :
    (reached analyzer config gate (before ++ .turn place :: more)).Closes t := by
  induction more using List.reverseRecOn with
  | nil =>
    obtain ⟨ready,he⟩ := shutdown_turn ht hc
    have hne := (staffed_reached analyzer config gate before).ticket_ne hc (by simp)
    rw [he]
    exact closes_first hne hr hc
  | append_singleton more m ih =>
    rw [← List.cons_append, ← List.append_assoc, reached_concat]
    exact ih.move (tidy_reached analyzer config hg _) (orderly_reached analyzer config gate _)
      (staffed_reached analyzer config gate _) m

theorem shutdown_ended (hg : ∀ g, gate = some g → g.waiting = [])
    (hr : (reached analyzer config gate before).stopped = false) (more : List Move) {x : Ending P}
    (hx : (t,x) ∈ (reached analyzer config gate (before ++ .turn place :: more)).ended) :
    x = .down ∧ (reached analyzer config gate (before ++ .turn place :: more)).stage? = none ∧
      ∀ u owner snap c, (reached analyzer config gate (before ++ .turn place :: more)).activity? u ≠
        some (.analysis owner snap c) := by
  have ho := orderly_reached analyzer config gate (before ++ .turn place :: more)
  cases shutdown_closes ht hc hg hr more with
  | waits hu =>
    rw [(ho.ended t x hx).2] at hu
    simp at hu
  | ended hx' hgone =>
    cases List.inj_on_of_nodup_map ho.once hx hx' rfl
    refine ⟨rfl, hgone, ?_⟩
    intro u owner snap c hu
    have hs := ((staffed_reached analyzer config gate _).of_analysis hu).2
    exact absurd (hs.symm.trans hgone) (by simp)

end Shutdown

theorem shutdown_is_final (analyzer : Analyzer P) (config : Config) (gate : Option Gate)
    (hg : ∀ g, gate = some g → g.waiting = []) (before more : List Move) (place : Nat) (t : Ticket)
    (ht : (reached analyzer config gate before).ready[place]? = some t)
    (hc : (reached analyzer config gate before).activity? t = some (.shutdown false))
    (hr : (reached analyzer config gate before).stopped = false) :
    let moves := before ++ .turn place :: more
    let s₀ := (Service.start analyzer config gate).after before
    let s := (Service.start analyzer config gate).after moves
    let awaited := s₀.engine.Awaited analyzer (· ∈ consulted analyzer config gate moves)
    (s.isShutDown = true ∧ s.engine.queue = { order := [], shutDown := true }) ∧
    (∀ r, r.needsRunning = true → s.receive r = (s, .refused .shutDown)) ∧
    (∀ i u c, s.engine.ready[i]? = some u → s.engine.activity? u = some (.call c) →
      ∃ why, (s.move (.turn i)).engine =
          ({ s.engine with ready := s.engine.ready.eraseIdx i } : Engine P).finish u (.refused why) ∧
        (why = .shutDown ∨ ∃ id timeout, c = .query id timeout ∧ why = .notOpen id)) ∧
    picked analyzer config gate moves = picked analyzer config gate before ∧
    (s.engine.store = s₀.engine.store ∨ ∃ snap payload, awaited snap payload ∧
      s.engine.store = (s₀.engine.store.publish snap payload).1) ∧
    (∀ id, s.document id = s₀.document id ∧ s.version id = s₀.version id ∧
      (s.latest id = s₀.latest id ∨ ∃ snap payload, awaited snap payload ∧ snap.id = id ∧
        s.latest id = .ok (some ⟨snap.id, snap.version, payload⟩)) ∧
      s.documents = s₀.documents) ∧
    (s.engine.isSettled = true → ∀ u a, s₀.engine.activity? u = some a → a.waits = true →
      s.engine.activity? u = none ∧ ∃ x, (u,x) ∈ s.engine.ended) ∧
    (∀ x, (t,x) ∈ s.engine.ended → x = .down ∧ s.engine.stage? = none ∧
      ∀ u owner snap c, s.engine.activity? u ≠ some (.analysis owner snap c)) ∧
    (∀ i u, s.engine.ready[i]? = some u → s.engine.activity? u = some (.shutdown false) →
      (s.move (.turn i)).engine =
        ({ s.engine with ready := s.engine.ready.eraseIdx i } : Engine P).finish u .down) := by
  intro moves s₀ s awaited
  have hstop : s.engine.stopped = true := shutdown_stopped ht hc more
  have ho : s.engine.Orderly := orderly_reached analyzer config gate moves
  have hv : s₀.engine.store.Valid := (orderly_reached analyzer config gate before).valid
  have hstore : s.engine.store = s₀.engine.store ∨ ∃ snap payload, awaited snap payload ∧
      s.engine.store = (s₀.engine.store.publish snap payload).1 := by
    cases shutdown_winds_down ht hc more with
    | goes hs => exact Or.inl hs
    | gone hs => exact Or.inl hs
    | published _ h hs => exact Or.inr ⟨_,_,h,hs⟩
  refine ⟨⟨hstop, emptied_reached _ _ _ _ hstop⟩, fun r => receive_stopped hstop,
    fun i u c => calls_refused hstop, shutdown_picked ht hc more, hstore, ?_, ?_,
    fun x => shutdown_ended ht hc hg hr more, fun i u => shutdown_again hstop⟩
  · intro id
    rcases hstore with hs | ⟨snap,payload,h,hs⟩
    · obtain ⟨hd,hver,hl,hids⟩ := reads_congr hs id
      exact ⟨hd, hver, Or.inl hl, hids⟩
    · obtain ⟨hd,hver,hl,hids⟩ := reads_published hv hs id
      refine ⟨hd, hver, ?_, hids⟩
      rcases hl with hl | ⟨hid,hl⟩
      · exact Or.inl hl
      · exact Or.inr ⟨snap,payload,h,hid,hl⟩
  · intro hs u a hu ha
    rcases wait_goes_on hu ha (.turn place :: more) with ⟨b,hb,hw⟩ | ⟨x,hx⟩
    · rw [nobody_waits hg hstop hs hb] at hw
      simp at hw
    · exact ⟨(ho.ended u x hx).2, x, hx⟩

theorem shutdown_is_final_gated :
    let analyzer : Analyzer Nat := fun _ _ _ => .found 5
    let id : DocumentId := ⟨"file:///d"⟩
    let before : List Move := [.ask (.openDocument id "x"), .turn 0, .turn 0,
      .ask (.call (.wait id none 100 none)), .turn 0, .ask .shutdown]
    let more : List Move := [.turn 0, .ask (.release 1), .turn 0, .turn 0, .turn 0]
    let s := (Service.start analyzer {} (some {})).after (before ++ .turn 0 :: more)
    s.receive (.change id "y") = (s, .refused .shutDown) ∧
    picked analyzer {} (some {}) (before ++ .turn 0 :: more) = [⟨id,"x",.baseline,1⟩] ∧
    s.latest id = .ok (some ⟨id,.baseline,5⟩) ∧
    s.engine.activity? 2 = none ∧
    (3,.down) ∈ s.engine.ended ∧ s.engine.stage? = none := by
  intro analyzer id before more s
  have h := shutdown_is_final analyzer {} (some {}) (by rintro g ⟨⟩; rfl) before more 0 3
    (by decide +kernel) (by decide +kernel) (by decide +kernel)
  obtain ⟨_,hrefused,_,hpicked,_,_,hwaits,hended,_⟩ := h
  have hdown : (3,.down) ∈ s.engine.ended := by decide +kernel
  have hsettled : s.engine.isSettled = true := by decide +kernel
  have hbefore : picked analyzer {} (some {}) before = [⟨id,"x",.baseline,1⟩] := by decide +kernel
  obtain ⟨a,ha,hw⟩ : ∃ a, (reached analyzer {} (some {}) before).activity? 2 = some a ∧
      a.waits = true := by
    refine ⟨.watch ⟨id,1,.baseline,100,100,none,.finding⟩, ?_, rfl⟩
    decide +kernel
  exact ⟨hrefused _ rfl, hpicked.trans hbefore, by decide +kernel, (hwaits hsettled 2 a ha hw).1, hdown,
    (hended _ hdown).2.1⟩

end Service

end LiveAnalysis
