import LiveAnalysis.Proofs.Updates
import LiveAnalysis.Proofs.Waits

namespace LiveAnalysis

variable {P : Type}

namespace Engine

inductive Acted (e : Engine P) (t : Ticket) (e' : Engine P) : Prop where
  | watches (v : Watch) (hu : e'.activity? t = some (.watch v)) (he : e'.ended = e.ended)
  | ends (x : Ending P) (hu : e'.activity? t = none) (he : e'.ended = e.ended ++ [(t,x)])

theorem acted_finish (e : Engine P) (t : Ticket) (x : Ending P) : Acted e t (e.finish t x) :=
  .ends x (by simp [activity?_finish]) rfl

section Acted

variable {e : Engine P} {t : Ticket} {a : Activity P} (h : e.activity? t = some a)

include h

theorem acted_set (v : Watch) : Acted e t (e.set t (.watch v)) :=
  .watches v (activity?_set_self _ h) rfl

theorem acted_watchTurn (v : Watch) : Acted e t (e.watchTurn t v) := by
  rcases e.watchTurn_cases t v with ⟨x,hx⟩ | ⟨v',hx,_⟩ <;> rw [hx]
  · exact acted_finish e t x
  · exact acted_set h v'

theorem acted_watchFrom (id : DocumentId) (atLeast : Option Version) (timeout : Nat)
    (token : Option Token) (goal : Goal) : Acted e t (e.watchFrom t id atLeast timeout token goal) := by
  rcases e.watchFrom_cases t id atLeast timeout token goal with ⟨x,hx⟩ | ⟨v,hx,_⟩ <;> rw [hx]
  · exact acted_finish e t x
  · exact acted_set h v

omit h in
theorem Acted.of_keeps {e₁ e₂ : Engine P} (k : e.Keeps e₁) (h : Acted e₁ t e₂) : Acted e t e₂ := by
  cases h with
  | watches v hu he => exact .watches v hu (he.trans k.ended)
  | ends x hu he => exact .ends x hu (by rw [he, k.ended])

theorem acted_callTurn (c : Call) : Acted e t (e.callTurn t c) := by
  rcases e.callTurn_cases t c with ⟨x,hx⟩ | ⟨e₁,_,_,_,_,_,hn,hx,_⟩ <;> rw [hx]
  · exact acted_finish e t x
  · exact (acted_watchFrom ((hn.keeps.activity? t).trans h) _ _ _ _ _).of_keeps hn.keeps

end Acted

/-!
Nobody is woken for nothing: a shutdown that waits for the worker is not ready before the worker has ended,
while a call that has not acted yet is ready unless it is the one that acts.
-/

structure Tidy (acting : Option Ticket) (e : Engine P) : Prop where
  once : (e.activities.map (·.1)).Nodup
  numbered : ∀ u a, e.activity? u = some a → u < e.tickets
  begun : 0 < e.tickets
  ready : e.ready.Nodup
  known : ∀ u ∈ e.ready, u < e.tickets
  lines : e.lines = []
  bell : ∀ u ∈ e.bell.waiting, u = 0
  gate : ∀ g, e.gate = some g → ∀ u ∈ g.waiting, u < e.tickets ∧
    ∀ a, e.activity? u = some a → a.isAnalysis = true
  worker : ∀ a, e.activity? 0 = some a → ∃ stage, a = .loop stage
  held : ∀ u, e.activity? u = some (.shutdown true) → u ∈ e.ready → e.stage? = none
  eager : ∀ u a, e.activity? u = some a → a.isFresh = true → a.isCaller = true → acting ≠ some u →
    u ∈ e.ready

def Rousable (e : Engine P) (u : Ticket) : Prop :=
  u < e.tickets ∧ ∀ begun, e.activity? u ≠ some (.shutdown begun)

theorem woken_nodup {ready : List Ticket} (ts : List Ticket) (h : ready.Nodup) : (woken ready ts).Nodup := by
  induction ts generalizing ready with
  | nil => exact h
  | cons t ts ih =>
    apply ih
    dsimp only
    by_cases ht : t ∈ ready
    · rwa [if_pos ht]
    · rw [if_neg ht, List.nodup_append]
      refine ⟨h, by simp, ?_⟩
      intro u hu u' hu' huu
      exact ht (List.mem_singleton.mp hu' ▸ huu ▸ hu)

theorem shutQueue_ready (e : Engine P) : e.shutQueue.ready = woken e.ready e.bell.waiting := by
  simp only [shutQueue, wakeAll_eq, Bell.ringAll]

section Tidy

variable {acting : Option Ticket} {e : Engine P} (h : e.Tidy acting)

include h

theorem Tidy.rousable {u : Ticket} {a : Activity P} (hu : (u,a) ∈ e.activities)
    (ha : ∀ begun, a ≠ .shutdown begun) : e.Rousable u := by
  have hx := activity?_of_mem h.once hu
  refine ⟨h.numbered u a hx, fun begun hs => ha begun ?_⟩
  rw [hx] at hs
  exact Option.some.inj hs

theorem Tidy.wakeAll {ts : List Ticket} (hts : ∀ u ∈ ts, u < e.tickets ∧
    (e.activity? u = some (.shutdown true) → e.stage? = none)) : (e.wakeAll ts).Tidy acting := by
  rw [wakeAll_eq]
  exact { h with
    ready := woken_nodup ts h.ready
    known := fun u hu => (mem_woken.mp hu).elim (h.known u) fun hu => (hts u hu).1
    held := fun u hs hu => (mem_woken.mp hu).elim (h.held u hs) fun hu => (hts u hu).2 hs
    eager := fun u a hu hf hc hn => mem_woken.mpr (Or.inl (h.eager u a hu hf hc hn)) }

theorem Tidy.rouse {ts : List Ticket} (hts : ∀ u ∈ ts, e.Rousable u) : (e.wakeAll ts).Tidy acting :=
  h.wakeAll fun u hu => ⟨(hts u hu).1, fun hs => absurd hs ((hts u hu).2 true)⟩

theorem Tidy.rouseOne {t : Ticket} (ht : e.Rousable t) : (e.wake t).Tidy acting := by
  have hts : ∀ u ∈ [t], e.Rousable u := fun u hu => List.mem_singleton.mp hu ▸ ht
  exact h.rouse hts

theorem Tidy.rouseSome {t : Option Ticket} (ht : ∀ u ∈ t, e.Rousable u) :
    (e.wakeSome t).Tidy acting := by
  cases t with
  | none => exact h
  | some t => exact h.rouseOne (ht t rfl)

theorem Tidy.rousable_worker : e.Rousable 0 := by
  refine ⟨h.begun, fun begun hs => ?_⟩
  obtain ⟨stage,ha⟩ := h.worker _ hs
  simp at ha

theorem Tidy.of_bell {bell : Bell} (hb : ∀ u ∈ bell.waiting, u = 0) :
    ({ e with bell } : Engine P).Tidy acting :=
  { h with bell := hb }

theorem Tidy.ring : e.ring.Tidy acting := by
  unfold Engine.ring Bell.ring
  cases hw : e.bell.waiting with
  | nil => exact h.of_bell (by simp)
  | cons t rest =>
    have ht := h.bell
    rw [hw] at ht
    refine Tidy.rouseSome (h.of_bell fun u hu => ht u (List.mem_cons_of_mem _ hu)) ?_
    intro u hu
    cases hu
    rw [ht t List.mem_cons_self]
    exact h.rousable_worker

theorem Tidy.enqueue (id : DocumentId) : (e.enqueue id).1.Tidy acting := by
  unfold Engine.enqueue
  dsimp only
  split
  · exact Tidy.ring { h with }
  · exact { h with }

theorem Tidy.watchers (g : Nat) : ∀ u ∈ e.watchers g, e.Rousable u := by
  intro u hu
  rw [Engine.watchers, h.lines, List.filter_nil, List.filterMap_nil, List.nil_append] at hu
  obtain ⟨⟨u',a⟩,hm,ha⟩ := List.mem_filterMap.mp hu
  cases a with
  | watch v =>
    simp only [Option.ite_none_right_eq_some, Option.some.injEq] at ha
    rw [← ha.2]
    exact h.rousable hm (by simp)
  | _ => simp at ha

theorem Tidy.openDocument {e' : Engine P} {id : DocumentId} {text : String}
    (he : e.openDocument id text = .ok e') : e'.Tidy acting := by
  obtain ⟨store,_,rfl⟩ := openDocument_ok.mp he
  have hs : ({ e with store } : Engine P).Tidy acting := { h with }
  exact hs.enqueue id

theorem Tidy.change {e' : Engine P} {id : DocumentId} {text : String} {v : Version}
    (he : e.change id text = .ok (e',v)) : e'.Tidy acting := by
  obtain ⟨store,_,rfl⟩ := change_ok.mp he
  have hs : ({ e with store } : Engine P).Tidy acting := { h with }
  exact hs.enqueue id

theorem Tidy.close {e' : Engine P} {id : DocumentId} (he : e.close id = .ok e') : e'.Tidy acting := by
  obtain ⟨store,g,_,rfl⟩ := close_ok.mp he
  have hc : ({ e with store, queue := (e.queue.remove id).1 } : Engine P).Tidy acting := { h with }
  exact hc.rouse (hc.watchers g)

theorem Tidy.noteOpened {e' : Engine P} {id : DocumentId} {text : String}
    (he : e.noteOpened id text = .ok e') : e'.Tidy acting := by
  obtain ⟨_,e₁,h₁,rfl⟩ := noteOpened_ok.mp he
  exact { h.openDocument h₁ with }

theorem Tidy.noteChanged {e' : Engine P} {id : DocumentId} {text : String} {v : Version}
    (he : e.noteChanged id text = .ok (e',v)) : e'.Tidy acting :=
  h.change (noteChanged_ok.mp he).2

theorem Tidy.noteClosed {e' : Engine P} {id : DocumentId} (he : e.noteClosed id = .ok e') :
    e'.Tidy acting := by
  obtain ⟨_,e₁,h₁,rfl⟩ := noteClosed_ok.mp he
  exact { h.close h₁ with }

theorem Tidy.requestAnalyses (ids : List DocumentId) : (e.requestAnalyses ids).1.Tidy acting := by
  induction ids generalizing e with
  | nil => exact h
  | cons id ids ih =>
    simp only [Engine.requestAnalyses]
    split
    · rename_i e₁ _ hid
      have he : e₁ = (e.enqueue id).1 := by rw [(requestAnalysis_ok.mp hid).2.2]
      exact ih (he ▸ h.enqueue id)
    · exact h

theorem Tidy.publish (s : Snapshot) (payload : P) : (e.publish s payload).1.Tidy acting := by
  unfold Engine.publish
  dsimp only
  have hp : ({ e with store := (e.store.publish s payload).1 } : Engine P).Tidy acting := { h with }
  split
  · exact hp.rouse (hp.watchers _)
  · exact hp

theorem Tidy.conclude (w : Worker P) (s : Snapshot) (verdict : Verdict P) :
    (Engine.conclude w e s verdict).1.Tidy acting := by
  cases verdict with
  | failed reason => exact { h with }
  | panicked => exact { h with }
  | found payload =>
    have hp := h.publish s payload
    simp only [Engine.conclude]
    split
    · exact { hp with }
    · exact hp

theorem Tidy.bellWaiting : ∀ u ∈ e.bell.waiting, e.Rousable u :=
  fun u hu => h.bell u hu ▸ h.rousable_worker

theorem Tidy.shutQueue : e.shutQueue.Tidy acting := by
  have hb : ({ e with queue := e.queue.shut, bell := e.bell.ringAll.1.ring.1 } : Engine P).Tidy acting :=
    { h with bell := by simp [Bell.ringAll, Bell.ring] }
  exact hb.rouse h.bellWaiting

theorem Tidy.idleLoops : ∀ u ∈ e.idleLoops, e.Rousable u := by
  intro u hu
  obtain ⟨⟨u',a⟩,hm,ha⟩ := List.mem_filterMap.mp hu
  cases a with
  | loop stage =>
    cases stage with
    | idle =>
      cases ha
      exact h.rousable hm (by simp)
    | _ => simp at ha
  | _ => simp at ha

theorem Tidy.watches : ∀ u ∈ e.watches, e.Rousable u := by
  intro u hu
  obtain ⟨⟨u',a⟩,hm,ha⟩ := List.mem_filterMap.mp hu
  cases a with
  | watch v =>
    cases ha
    exact h.rousable hm (by simp)
  | _ => simp at ha

theorem Tidy.stop : e.stop.Tidy acting := by
  have hs : ({ e with stopped := true } : Engine P).Tidy acting := { h with }
  exact hs.rouse hs.idleLoops

theorem Tidy.release (permits : Nat) : (e.release permits).Tidy acting := by
  unfold Engine.release
  split
  · exact h
  · rename_i gate hg
    have hr : ({ e with gate := some (gate.release permits).1 } : Engine P).Tidy acting := by
      refine { h with gate := ?_ }
      intro g hg' u hu
      cases hg'
      exact h.gate gate hg u (List.mem_of_mem_drop hu)
    refine hr.rouse fun u hu => ?_
    obtain ⟨hlt,ha⟩ := h.gate gate hg u (List.mem_of_mem_take hu)
    refine ⟨hlt, fun begun hs => ?_⟩
    have := ha _ hs
    simp [Activity.isAnalysis] at this

theorem Tidy.soundAlarms : e.soundAlarms.Tidy acting := by
  have hs : ({ e with alarmed := e.clock } : Engine P).Tidy acting := { h with }
  refine hs.rouse fun u hu => ?_
  obtain ⟨⟨d,u'⟩,hm,rfl⟩ := List.mem_map.mp hu
  obtain ⟨⟨t,a⟩,hm,ha⟩ := List.mem_filterMap.mp (List.mem_mergeSort.mp hm)
  cases a with
  | watch v =>
    simp only [Option.ite_none_right_eq_some, Option.some.injEq, Prod.mk.injEq] at ha
    rw [← ha.2.2]
    exact hs.rousable hm (by simp)
  | _ => simp at ha

theorem Tidy.cancel (token : Token) : (e.cancel token).Tidy acting := by
  have hc : ({ e with cancelled := token :: e.cancelled } : Engine P).Tidy acting := { h with }
  refine hc.rouse fun u hu => ?_
  obtain ⟨⟨t,a⟩,hm,ha⟩ := List.mem_filterMap.mp hu
  cases a with
  | watch v =>
    simp only [Option.ite_none_right_eq_some, Option.some.injEq] at ha
    rw [← ha.2]
    exact hc.rousable hm (by simp)
  | _ => simp at ha

theorem Tidy.start {a : Activity P} (ha : a ≠ .shutdown true) : (e.start a).Tidy acting := by
  have hnew : ∀ b, (e.tickets,b) ∉ e.activities :=
    fun b hb => Nat.lt_irrefl _ (h.numbered _ b (activity?_of_mem h.once hb))
  have hold : ∀ u b, (e.start a).activity? u = some b → e.activity? u = some b ∨ u = e.tickets ∧ b = a := by
    intro u b hu
    rw [activity?_start, Option.or_eq_some_iff] at hu
    rcases hu with hu | ⟨_,hu⟩
    · exact Or.inl hu
    · split at hu
      · rename_i hut
        exact Or.inr ⟨hut, (Option.some.inj hu).symm⟩
      · simp at hu
  refine { h with once := ?_, numbered := ?_, begun := Nat.succ_pos _, ready := ?_, known := ?_,
                  gate := ?_, worker := ?_, held := ?_, eager := ?_ }
  · simp only [Engine.start, List.map_append, List.nodup_append]
    refine ⟨h.once, by simp, ?_⟩
    rintro _ hu _ hu' rfl
    obtain ⟨⟨u,b⟩,hm,rfl⟩ := List.mem_map.mp hu
    simp only [List.map_cons, List.map_nil, List.mem_singleton] at hu'
    exact hnew b (hu' ▸ hm)
  · intro u b hu
    rcases hold u b hu with hu | ⟨rfl,_⟩
    · exact Nat.lt_succ_of_lt (h.numbered u b hu)
    · exact Nat.lt_succ_self _
  · simp only [Engine.start, List.nodup_append]
    refine ⟨h.ready, by simp, ?_⟩
    rintro u hu _ hu' rfl
    exact Nat.lt_irrefl _ (List.mem_singleton.mp hu' ▸ h.known u hu)
  · intro u hu
    rcases List.mem_append.mp hu with hu | hu
    · exact Nat.lt_succ_of_lt (h.known u hu)
    · exact List.mem_singleton.mp hu ▸ Nat.lt_succ_self _
  · intro g hg u hu
    obtain ⟨hlt,hb⟩ := h.gate g hg u hu
    refine ⟨Nat.lt_succ_of_lt hlt, fun b hub => ?_⟩
    rcases hold u b hub with hub | ⟨rfl,_⟩
    · exact hb b hub
    · exact absurd hlt (Nat.lt_irrefl _)
  · intro b hb
    rcases hold 0 b hb with hb | ⟨hz,_⟩
    · exact h.worker b hb
    · exact absurd h.begun (hz ▸ Nat.lt_irrefl _)
  · intro u hu hr
    rw [stage?_start h.begun]
    rcases hold u _ hu with hu | ⟨rfl,hs⟩
    · rcases List.mem_append.mp hr with hr | hr
      · exact h.held u hu hr
      · rw [List.mem_singleton.mp hr] at hu
        exact absurd (h.numbered _ _ hu) (Nat.lt_irrefl _)
    · exact absurd hs.symm ha
  · intro u b hu hf hc hn
    rcases hold u b hu with hu | ⟨rfl,_⟩
    · exact List.mem_append_left _ (h.eager u b hu hf hc hn)
    · exact List.mem_append_right _ (List.mem_singleton.mpr rfl)

theorem Tidy.set {t : Ticket} {a b : Activity P} (hb : e.activity? t = some b)
    (hg : b.isAnalysis = true → a.isAnalysis = true) (hw : t = 0 → ∃ stage, a = .loop stage)
    (hs : a = .shutdown true → t ∉ e.ready)
    (hf : a.isFresh = true → a.isCaller = true → acting ≠ some t → t ∈ e.ready) :
    (e.set t a).Tidy acting := by
  have hold : ∀ u c, (e.set t a).activity? u = some c → e.activity? u = some c ∨ u = t ∧ c = a := by
    intro u c hu
    rw [activity?_set] at hu
    split at hu
    · rename_i hut
      obtain ⟨_,_,rfl⟩ := Option.map_eq_some_iff.mp hu
      exact Or.inr ⟨hut,rfl⟩
    · exact Or.inl hu
  refine { h with once := ?_, numbered := ?_, gate := ?_, worker := ?_, held := ?_, eager := ?_ }
  · have hkeys : (e.set t a).activities.map (·.1) = e.activities.map (·.1) := by
      simp only [Engine.set, List.map_map]
      refine List.map_congr_left fun p _ => ?_
      by_cases hp : p.1 = t <;> simp [hp]
    rw [hkeys]
    exact h.once
  · intro u c hu
    rcases hold u c hu with hu | ⟨rfl,_⟩
    · exact h.numbered u c hu
    · exact h.numbered u b hb
  · intro g hgate u hu
    obtain ⟨hlt,hc⟩ := h.gate g hgate u hu
    refine ⟨hlt, fun c huc => ?_⟩
    rcases hold u c huc with huc | ⟨rfl,rfl⟩
    · exact hc c huc
    · exact hg (hc b hb)
  · intro c hc
    rcases hold 0 c hc with hc | ⟨hz,rfl⟩
    · exact h.worker c hc
    · exact hw hz.symm
  · intro u hu hr
    rcases hold u _ hu with hu | ⟨rfl,ha⟩
    · have hnone := h.held u hu hr
      by_cases ht : t = 0
      · subst ht
        obtain ⟨stage,rfl⟩ := h.worker b hb
        simp [stage?, hb] at hnone
      · rw [stage?_set ht]
        exact hnone
    · exact absurd hr (hs ha.symm)
  · intro u c hu hfresh hc hn
    rcases hold u c hu with hu | ⟨rfl,rfl⟩
    · exact h.eager u c hu hfresh hc hn
    · exact hf hfresh hc hn

theorem Tidy.remove (t : Ticket) : (e.remove t).Tidy acting := by
  have hold : ∀ u a, (e.remove t).activity? u = some a → e.activity? u = some a := by
    intro u a hu
    rw [activity?_remove] at hu
    split at hu
    · simp at hu
    · exact hu
  refine { h with once := ?_, numbered := ?_, gate := ?_, worker := ?_, held := ?_, eager := ?_ }
  · exact h.once.sublist ((List.filter_sublist).map _)
  · exact fun u a hu => h.numbered u a (hold u a hu)
  · intro g hg u hu
    obtain ⟨hlt,ha⟩ := h.gate g hg u hu
    exact ⟨hlt, fun a hua => ha a (hold u a hua)⟩
  · exact fun a ha => h.worker a (hold 0 a ha)
  · intro u hu hr
    have hnone := h.held u (hold u _ hu) hr
    by_cases ht : t = 0
    · simp [stage?, activity?_remove, ht]
    · rw [← hnone]
      apply stage?_congr
      rw [activity?_remove, if_neg (Ne.symm ht)]
  · exact fun u a hu => h.eager u a (hold u a hu)

theorem Tidy.finish (t : Ticket) (x : Ending P) : (e.finish t x).Tidy acting :=
  { h.remove t with }

theorem Tidy.answered : ({ e with bell := e.bell.answer 0 } : Engine P).Tidy acting :=
  h.of_bell fun u hu => h.bell u (List.mem_of_mem_erase hu)

theorem Tidy.endLoop : (e.endLoop 0).Tidy acting := by
  have hleave : (∀ u ∈ (e.bell.leave 0).1.waiting, u = 0) ∧ ∀ u ∈ (e.bell.leave 0).2, u = 0 := by
    unfold Bell.leave
    split
    · unfold Bell.ring
      dsimp only
      cases hw : e.bell.waiting with
      | nil => simp
      | cons t rest =>
        have ht := h.bell
        rw [hw] at ht
        refine ⟨fun u hu => ht u (List.mem_cons_of_mem _ hu), ?_⟩
        intro u hu
        cases hu
        exact ht t List.mem_cons_self
    · exact ⟨fun u hu => h.bell u (List.mem_of_mem_erase hu), by simp⟩
  unfold Engine.endLoop
  dsimp only
  have hf := (h.of_bell hleave.1).finish 0 .stopped
  have hgone : (({ e with bell := (e.bell.leave 0).1 } : Engine P).finish 0 .stopped).stage? = none := by
    simp [stage?, activity?_finish]
  have hr := hf.rouseSome (t := (e.bell.leave 0).2) fun u hu => ?_
  · refine hr.wakeAll fun u hu => ?_
    obtain ⟨⟨t,a⟩,hm,ha⟩ := List.mem_filterMap.mp hu
    have hu : t = u := by
      cases a with
      | shutdown begun => cases begun <;> simp at ha; exact ha
      | _ => simp at ha
    refine ⟨hu ▸ hr.numbered t a (activity?_of_mem hr.once hm), fun _ => ?_⟩
    rw [(keeps_wakeSome _ _).stage?]
    exact hgone
  · refine ⟨?_, fun begun hs => ?_⟩
    · rw [hleave.2 u hu]
      exact h.begun
    · rw [hleave.2 u hu, activity?_finish] at hs
      simp at hs

theorem Tidy.seek {stage : Stage P} (hg : e.activity? 0 = some (.loop stage)) :
    (e.seek 0).Tidy acting := by
  have hset : ∀ (e₁ : Engine P) stage', e₁.Tidy acting → e₁.activities = e.activities →
      (e₁.set 0 (.loop stage')).Tidy acting := by
    intro e₁ stage' h₁ ha
    have hg₁ : e₁.activity? 0 = some (.loop stage) := by
      simp only [activity?, ha]
      exact hg
    exact h₁.set hg₁ (fun hx => by simp [Activity.isAnalysis] at hx) (fun _ => ⟨_,rfl⟩)
      (fun hx => by simp at hx) (fun _ hx => by simp [Activity.isCaller] at hx)
  unfold Engine.seek
  split
  · exact h.endLoop
  split
  · exact h.answered.endLoop
  dsimp only
  split
  · rename_i rest hf
    have hq : ({ e with bell := e.bell.answer 0, queue := e.queue.leave rest } :
      Engine P).Tidy acting := { h.answered with }
    exact (hset _ _ hq rfl).start (by simp)
  · refine hset _ _ ?_ rfl
    have hw : ({ e with bell := (e.bell.answer 0).wait 0 } : Engine P).Tidy acting := by
      refine h.of_bell fun u hu => ?_
      rcases List.mem_append.mp hu with hu | hu
      · exact h.answered.bell u hu
      · exact List.mem_singleton.mp hu
    exact { hw with }

theorem Tidy.loopTurn (w : Worker P) {stage : Stage P} (hg : e.activity? 0 = some (.loop stage)) :
    (e.loopTurn w 0 stage).Tidy acting := by
  cases stage with
  | idle => exact h.seek hg
  | underway s => exact h
  | judged s verdict =>
    exact (h.conclude w s verdict).seek ((keeps_conclude w e s verdict).activity? 0 ▸ hg)

theorem Tidy.judge (w : Worker P) {t : Ticket} {stage : Stage P} (ht : t ≠ 0)
    (hg : e.activity? 0 = some (.loop stage)) (s : Snapshot) (call : Nat) :
    (e.judge w t 0 s call).Tidy acting := by
  have hr := h.remove t
  have hg' : (e.remove t).activity? 0 = some (.loop stage) := by
    rw [activity?_remove, if_neg (Ne.symm ht)]
    exact hg
  unfold Engine.judge Engine.deliver
  rw [hg']
  have hset : ((e.remove t).set 0 (.loop (.judged s (w.analyzer call s.text s.version)))).Tidy acting :=
    hr.set hg' (fun hx => by simp [Activity.isAnalysis] at hx) (fun _ => ⟨_,rfl⟩)
      (fun hx => by simp at hx) (fun hx => by simp [Activity.isFresh] at hx)
  exact hset.rouseOne hset.rousable_worker

theorem Tidy.analysisTurn (w : Worker P) {t : Ticket} {stage : Stage P} {s : Snapshot} {c : Option Nat}
    (ht : t ≠ 0) (hg : e.activity? 0 = some (.loop stage))
    (hu : e.activity? t = some (.analysis 0 s c)) : (e.analysisTurn w t 0 s c).Tidy acting := by
  cases c with
  | some call => exact h.judge w ht hg s call
  | none =>
    have hc : ({ e with calls := e.calls + 1 } : Engine P).Tidy acting := { h with }
    simp only [Engine.analysisTurn]
    split
    · exact hc.judge w ht hg s _
    · rename_i gate hgate
      have harrive : ({ e with calls := e.calls + 1, gate := some (gate.arrive t).1 } : Engine P).Tidy
          acting := by
        refine { h with gate := ?_ }
        intro g hg u hin
        cases hg
        unfold Gate.arrive at hin
        split at hin
        · exact h.gate gate hgate u hin
        · rcases List.mem_append.mp hin with hin | hin
          · exact h.gate gate hgate u hin
          · obtain rfl := List.mem_singleton.mp hin
            refine ⟨h.numbered _ _ hu, fun a ha => ?_⟩
            cases ha.symm.trans hu
            rfl
      split
      · rename_i ha
        rw [ha] at harrive
        exact harrive.judge w ht hg s _
      · rename_i ha
        rw [ha] at harrive
        exact harrive.set (b := .analysis 0 s none) hu (fun _ => rfl) (fun hz => absurd hz ht)
          (fun hx => by simp at hx) (fun hx => by simp [Activity.isFresh] at hx)

section Waiting

variable {t : Ticket} {a : Activity P} (hu : e.activity? t = some a) (ha : a.isCaller = true)

include hu ha

theorem Tidy.setWatch (v : Watch) : (e.set t (.watch v)).Tidy acting := by
  refine h.set hu ?_ ?_ (fun hx => by simp at hx) (fun hx => by simp [Activity.isFresh] at hx)
  · intro hx
    cases a <;> simp [Activity.isAnalysis, Activity.isCaller] at hx ha
  · rintro rfl
    obtain ⟨stage,rfl⟩ := h.worker a hu
    simp [Activity.isCaller] at ha

theorem Tidy.watchTurn (v : Watch) : (e.watchTurn t v).Tidy acting := by
  rcases e.watchTurn_cases t v with ⟨x,hx⟩ | ⟨v',hx,_⟩ <;> rw [hx]
  · exact h.finish t x
  · exact h.setWatch hu ha v'

theorem Tidy.watchFrom (id : DocumentId) (atLeast : Option Version) (timeout : Nat)
    (token : Option Token) (goal : Goal) : (e.watchFrom t id atLeast timeout token goal).Tidy acting := by
  rcases e.watchFrom_cases t id atLeast timeout token goal with ⟨x,hx⟩ | ⟨v,hx,_⟩ <;> rw [hx]
  · exact h.finish t x
  · exact h.setWatch hu ha v

theorem Tidy.callTurn (c : Call) : (e.callTurn t c).Tidy acting := by
  rcases e.callTurn_cases t c with ⟨x,hx⟩ | ⟨e₁,_,_,_,_,_,hn,hx,_⟩ <;> rw [hx]
  · exact h.finish t x
  · have hnoted : e₁.Tidy acting := by
      cases hn with
      | nothing => exact h
      | opened hn => exact h.noteOpened hn
      | changed hn => exact h.noteChanged hn
    exact hnoted.watchFrom ((hn.keeps.activity? t).trans hu) ha _ _ _ _ _

end Waiting

omit h in
theorem not_roused {t : Ticket} {begun : Bool} (hu : e.activity? t = some (.shutdown begun))
    (hr : t ∉ e.ready) {ts : List Ticket} (hts : ∀ u ∈ ts, e.Rousable u) : t ∉ woken e.ready ts := by
  intro hx
  rcases mem_woken.mp hx with hx | hx
  · exact hr hx
  · exact (hts t hx).2 begun hu

theorem Tidy.shutdownTurn {t : Ticket} {begun : Bool} (hu : e.activity? t = some (.shutdown begun))
    (hr : t ∉ e.ready) : (e.shutdownTurn t begun).Tidy acting := by
  have hend : ∀ e₁ : Engine P, e₁.Tidy acting → (e₁.endShutdown t).Tidy acting := by
    intro e₁ h₁
    have hemit : (e₁.emit .down).Tidy acting := { h₁ with }
    exact hemit.finish t .down
  cases begun with
  | true => exact hend e h
  | false =>
    simp only [Engine.shutdownTurn]
    split
    · exact h.finish t .down
    have hs : ({ e with stopped := true } : Engine P).Tidy acting := { h with }
    have hw := h.stop.rouse h.stop.watches
    have hstop : e.stop.activity? t = some (.shutdown false) := by
      rw [Engine.stop, (keeps_wakeAll _ _).activity? t]
      exact hu
    have hwatches : (e.stop.wakeAll e.stop.watches).activity? t = some (.shutdown false) := by
      rw [(keeps_wakeAll _ _).activity? t]
      exact hstop
    have hready : t ∉ e.stop.ready := by
      rw [Engine.stop, wakeAll_eq]
      exact not_roused hu hr hs.idleLoops
    have hready : t ∉ (e.stop.wakeAll e.stop.watches).ready := by
      rw [wakeAll_eq]
      exact not_roused hstop hready h.stop.watches
    have hready : t ∉ (e.stop.wakeAll e.stop.watches).shutQueue.ready := by
      rw [shutQueue_ready]
      exact not_roused hwatches hready hw.bellWaiting
    split
    · refine hw.shutQueue.set ((keeps_shutQueue _).activity? t ▸ hwatches)
        (fun hx => by simp [Activity.isAnalysis] at hx) ?_ (fun _ => hready)
        (fun hx => by simp [Activity.isFresh] at hx)
      rintro rfl
      obtain ⟨stage,hx⟩ := h.worker _ hu
      simp at hx
    · exact hend _ hw.shutQueue

end Tidy

theorem Tidy.acted {e : Engine P} {t : Ticket} (h : e.Tidy (some t))
    (ha : ∀ a, e.activity? t = some a → a.isFresh = true → a.isCaller = false) : e.Tidy none := by
  refine { h with eager := ?_ }
  intro u a hu hf hc _
  by_cases hut : u = t
  · subst hut
    simp [ha a hu hf] at hc
  · exact h.eager u a hu hf hc fun hx => hut (Option.some.inj hx).symm

theorem Tidy.acting {e : Engine P} (h : e.Tidy none) (t : Ticket) (ready : List Ticket)
    (hn : ready.Nodup) (hr : ∀ u ∈ ready, u ∈ e.ready) (hk : ∀ u ∈ e.ready, u ≠ t → u ∈ ready) :
    ({ e with ready } : Engine P).Tidy (some t) := by
  refine { h with ready := hn, known := fun u hu => h.known u (hr u hu),
                  held := fun u hu hx => h.held u hu (hr u hx), eager := ?_ }
  intro u a hu hf hc hut
  exact hk u (h.eager u a hu hf hc (by simp)) fun hx => hut (congrArg some hx.symm)

theorem Arises.no_caller {w : Worker P} {e e' : Engine P} {t : Ticket} {a b : Activity P}
    (h : Arises w e e' t t a) (hb : e.activity? t = some b) (hc : b.isCaller = false) :
    a.isCaller = false := by
  generalize hu : t = u at h
  cases h with
  | kept hx =>
    subst hu
    cases hb.symm.trans hx
    exact hc
  | watching hx ha =>
    subst hu
    cases hb.symm.trans hx
    simp [hc] at ha
  | closing hx =>
    subst hu
    cases hb.symm.trans hx
    simp [Activity.isCaller] at hc
  | _ => rfl

theorem shutdownTurn_activity? (e : Engine P) (t : Ticket) (begun : Bool) (a : Activity P)
    (h : (e.shutdownTurn t begun).activity? t = some a) : a = .shutdown true := by
  have hfinish : ∀ (e₁ : Engine P) x, (e₁.finish t x).activity? t = some a → a = .shutdown true := by
    intro e₁ x hx
    simp [activity?_finish] at hx
  cases begun with
  | true => exact hfinish _ _ h
  | false =>
    simp only [shutdownTurn] at h
    split at h
    · exact hfinish _ _ h
    · split at h
      · rw [activity?_set, if_pos rfl] at h
        obtain ⟨_,_,rfl⟩ := Option.map_eq_some_iff.mp h
        rfl
      · exact hfinish _ _ h

theorem Acted.not_fresh {e e' : Engine P} {t : Ticket} {a : Activity P} (h : Acted e t e')
    (hu : e'.activity? t = some a) : a.isFresh = false := by
  cases h with
  | watches v hv =>
    cases hv.symm.trans hu
    rfl
  | ends x hn =>
    rw [hn] at hu
    simp at hu

theorem Tidy.turn (w : Worker P) {e : Engine P} {t : Ticket} (h : e.Tidy (some t)) (hst : e.Staffed)
    (hv : e.store.Valid) (hr : t ∉ e.ready) : (e.turn w t).Tidy none := by
  have hidle : ∀ b, e.activity? t = some b → b.isCaller = false → (e.turn w t).Tidy (some t) →
      (e.turn w t).Tidy none :=
    fun b hb hc ht => ht.acted fun a ha _ => ((turned w e hv t).arises t a ha).no_caller hb hc
  cases hu : e.activity? t with
  | none =>
    rw [turn_of_none w hu]
    exact h.acted fun a ha => by simp [hu] at ha
  | some b =>
    have hne := hst.ticket_ne hu
    cases b with
    | loop stage =>
      obtain rfl := hst.loop_ticket hu
      refine hidle _ hu rfl ?_
      simp only [Engine.turn, hu]
      exact h.loopTurn w hu
    | analysis owner s c =>
      obtain ⟨rfl,hg⟩ := hst.of_analysis hu
      refine hidle _ hu rfl ?_
      simp only [Engine.turn, hu]
      exact h.analysisTurn w (hne (by simp)) (stage?_eq.mp hg) hu
    | call c =>
      simp only [Engine.turn, hu]
      refine (h.callTurn hu rfl c).acted fun a ha hf => ?_
      simp [(acted_callTurn hu c).not_fresh ha] at hf
    | watch v =>
      simp only [Engine.turn, hu]
      refine (h.watchTurn hu rfl v).acted fun a ha hf => ?_
      simp [(acted_watchTurn hu v).not_fresh ha] at hf
    | shutdown begun =>
      simp only [Engine.turn, hu]
      refine (h.shutdownTurn hu hr).acted fun a ha hf => ?_
      rw [shutdownTurn_activity? e t begun a ha] at hf
      simp [Activity.isFresh] at hf
    | _ =>
      rcases hst.others t _ (hne (by simp)) hu with hc | ⟨s,c,hc,_⟩
      · simp [Activity.isCaller] at hc
      · simp at hc

theorem Tidy.hangUp {e : Engine P} {acting : Option Ticket} (h : e.Tidy acting) :
    e.hangUp.Tidy acting := by
  rcases e.hangUp_cases with hx | ⟨hx,_⟩
  · rw [hx]
    exact h
  · rw [hx]
    exact h.stop.shutQueue

theorem Tidy.ask (w : Worker P) {e : Engine P} (h : e.Tidy none) (r : Request) :
    (e.move w (.ask r)).Tidy none := by
  cases r with
  | openDocument id text =>
    simp only [Engine.move, Service.receive]
    split
    · exact h.noteOpened ‹_›
    · exact h
  | change id text =>
    simp only [Engine.move, Service.receive]
    split
    · exact h.noteChanged ‹_›
    · exact h
  | close id =>
    simp only [Engine.move, Service.receive]
    split
    · exact h.noteClosed ‹_›
    · exact h
  | analyse id =>
    have hr := h.requestAnalyses [id]
    simp only [Engine.move, Service.receive]
    cases hid : e.requestAnalysis id <;> simp only [Engine.requestAnalyses, hid] at hr <;> exact hr
  | analyseAll ids =>
    have hr := h.requestAnalyses ids
    simp only [Engine.move, Service.receive]
    split <;> rename_i hids <;> rw [hids] at hr <;> exact hr
  | call c => exact h.start (by simp)
  | cancel token => exact h.cancel token
  | shutdown => exact h.start (by simp)
  | abandon =>
    have ha : ({ e with abandoned := true } : Engine P).Tidy none := { h with }
    exact ha.hangUp
  | release permits => exact h.release permits
  | advance ms => exact { h with }

theorem Tidy.move (w : Worker P) {e : Engine P} (h : e.Tidy none) (hst : e.Staffed)
    (hv : e.store.Valid) (m : Service.Move) : (e.move w m.engine).Tidy none := by
  cases m with
  | ask r => exact h.ask w r
  | turn place =>
    simp only [Service.Move.engine, Engine.move]
    split
    · exact h
    rename_i t ht
    have hgone : t ∉ e.ready.eraseIdx place := by
      intro hin
      obtain ⟨i,hi,hti⟩ := List.mem_eraseIdx_iff_getElem?.mp hin
      obtain ⟨hlt,_⟩ := List.getElem?_eq_some_iff.mp hti
      exact hi ((List.getElem?_inj hlt h.ready).mp (hti.trans ht.symm))
    have hacting : ({ e with ready := e.ready.eraseIdx place } : Engine P).Tidy (some t) := by
      refine h.acting t _ (h.ready.sublist (List.eraseIdx_sublist _ _)) ?_ ?_
      · exact fun u hu => List.mem_of_mem_eraseIdx hu
      · intro u hu hut
        obtain ⟨i,hi⟩ := List.mem_iff_getElem?.mp hu
        refine List.mem_eraseIdx_iff_getElem?.mpr ⟨i, ?_, hi⟩
        rintro rfl
        exact hut (Option.some.inj (hi.symm.trans ht))
    have hst' : ({ e with ready := e.ready.eraseIdx place } : Engine P).Staffed :=
      ⟨hst.begun,hst.first,hst.others,hst.sole,hst.shut⟩
    exact hacting.turn w hst' hv hgone
  | alarms => exact h.soundAlarms
  | hangUp => exact h.hangUp

end Engine

namespace Service

variable (analyzer : Analyzer P) (config : Config) {gate : Option Gate}

theorem tidy_start (hg : ∀ g, gate = some g → g.waiting = []) :
    (reached analyzer config gate []).Tidy none where
  once := List.nodup_singleton _
  numbered u a hu := by
    rw [activity?_reached_nil] at hu
    split at hu
    · rename_i h
      exact h ▸ Nat.zero_lt_one
    · simp at hu
  begun := Nat.zero_lt_one
  ready := List.nodup_singleton _
  known u hu := List.mem_singleton.mp hu ▸ Nat.zero_lt_one
  lines := rfl
  bell u hu := absurd hu List.not_mem_nil
  gate g hgate u hu := by
    rw [hg g hgate] at hu
    exact absurd hu List.not_mem_nil
  worker a ha := (staffed_start analyzer config gate).first a ha
  held u hu := by
    rw [activity?_reached_nil] at hu
    split at hu <;> simp at hu
  eager u a hu hf hc := by
    rw [activity?_reached_nil] at hu
    split at hu
    · cases hu
      simp [Activity.isCaller] at hc
    · simp at hu

theorem tidy_reached (hg : ∀ g, gate = some g → g.waiting = []) (moves : List Move) :
    (reached analyzer config gate moves).Tidy none := by
  induction moves using List.reverseRecOn with
  | nil => exact tidy_start analyzer config hg
  | append_singleton moves m ih =>
    rw [reached_concat]
    exact ih.move _ (staffed_reached analyzer config gate moves)
      (orderly_reached analyzer config gate moves).valid m

end Service

end LiveAnalysis
