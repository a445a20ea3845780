import Mathlib.Algebra.Order.BigOperators.Group.List
import Mathlib.Algebra.Order.Ring.Nat
import LiveAnalysis.Proofs.Quiet

namespace LiveAnalysis

variable {P : Type}

theorem Activity.energy_mono {m n : Nat} (h : m ≤ n) (a : Activity P) : a.energy m ≤ a.energy n := by
  unfold energy
  split <;> omega

namespace Engine

/-! What goes on weighs as much as it can still cost where a turn wakes `n` activities at most. -/

def size (e : Engine P) : Nat :=
  e.activities.countP (!·.2.isAnalysis)

def weight (n : Nat) (e : Engine P) : Nat :=
  e.ready.length + (n + 5) * e.queue.order.length + (e.activities.map (·.2.energy n)).sum

theorem energy_eq {e : Engine P} (h : e.abandoned = false) :
    e.energy = (if e.clock ≤ e.alarmed then 0 else e.size + 1) + e.weight e.size := by
  simp only [energy, h, weight, size, Bool.false_and, Bool.false_eq_true, if_false]
  change _ + (e.activities.map _).sum = _
  omega

theorem weight_mono {m n : Nat} (h : m ≤ n) (e : Engine P) : e.weight m ≤ e.weight n := by
  have hq : (m + 5) * e.queue.order.length ≤ (n + 5) * e.queue.order.length :=
    Nat.mul_le_mul_right _ (Nat.add_le_add_right h 5)
  have hs : (e.activities.map (·.2.energy m)).sum ≤ (e.activities.map (·.2.energy n)).sum :=
    List.sum_le_sum fun p _ => p.2.energy_mono h
  unfold weight
  omega

theorem weight_start (e : Engine P) (a : Activity P) (n : Nat) :
    (e.start a).weight n = e.weight n + a.energy n + 1 := by
  simp only [weight, start, List.length_append, List.length_singleton, List.map_append, List.map_singleton,
    List.sum_append, List.sum_singleton]
  omega

theorem size_analysis (e : Engine P) (owner : Ticket) (s : Snapshot) : (e.begin owner s).size = e.size := by
  simp [size, begin, start, Activity.isAnalysis]

theorem woken_length (ready ts : List Ticket) : (woken ready ts).length ≤ ready.length + ts.length := by
  induction ts generalizing ready with
  | nil => exact Nat.le_refl _
  | cons t ts ih =>
    have h := ih (if t ∈ ready then ready else ready ++ [t])
    have hle : (if t ∈ ready then ready else ready ++ [t]).length ≤ ready.length + 1 := by
      split <;> simp
    change (woken (if t ∈ ready then ready else ready ++ [t]) ts).length ≤ ready.length + (ts.length + 1)
    omega

theorem weight_wakeAll (e : Engine P) (ts : List Ticket) (n : Nat) :
    (e.wakeAll ts).weight n ≤ e.weight n + ts.length := by
  have h := woken_length e.ready ts
  rw [wakeAll_eq]
  simp only [weight]
  omega

theorem Keeps.size {e e' : Engine P} (k : e.Keeps e') : e'.size = e.size := by
  rw [Engine.size, k.activities, Engine.size]

theorem filterMap_length {e : Engine P} {α : Type} (f : Ticket × Activity P → Option α)
    (hf : ∀ t owner s c, f (t, .analysis owner s c) = none) : (e.activities.filterMap f).length ≤ e.size := by
  rw [List.length_filterMap_eq_countP]
  refine List.countP_mono_left fun p _ hp => ?_
  obtain ⟨t,a⟩ := p
  cases a with
  | analysis owner s c => simp [hf] at hp
  | _ => rfl

theorem watchers_length {e : Engine P} (hl : e.lines = []) (g : Nat) : (e.watchers g).length ≤ e.size := by
  rw [watchers, hl, List.filter_nil, List.filterMap_nil, List.nil_append]
  exact filterMap_length _ fun _ _ _ _ => rfl

theorem overdue_length (e : Engine P) : e.overdue.length ≤ e.size := by
  rw [overdue, List.length_map, List.length_mergeSort]
  exact filterMap_length _ fun _ _ _ _ => rfl

section Weights

variable {e : Engine P} (hk : (e.activities.map (·.1)).Nodup) {t : Ticket} {a : Activity P}
  (hu : e.activity? t = some a)

include hk hu

theorem activities_split : ∃ before after, e.activities = before ++ (t,a) :: after ∧
    (∀ b, (e.set t b).activities = before ++ (t,b) :: after) ∧ (e.remove t).activities = before ++ after := by
  obtain ⟨before,after,h⟩ := List.append_of_mem (mem_of_activity? hu)
  have hn : ∀ p ∈ before ++ after, p.1 ≠ t := by
    intro p hp hpt
    rw [h, List.map_append, List.map_cons, List.nodup_middle, ← List.map_append] at hk
    exact (List.nodup_cons.mp hk).1 (List.mem_map.mpr ⟨p,hp,hpt⟩)
  obtain ⟨hb,ha⟩ := List.forall_mem_append.mp hn
  refine ⟨before, after, h, fun b => ?_, ?_⟩
  · have hsame : ∀ ps : List (Ticket × Activity P), (∀ p ∈ ps, p.1 ≠ t) →
        ps.map (fun p => if p.1 = t then (t,b) else p) = ps := fun ps hps =>
      (List.map_congr_left fun p hp => if_neg (hps p hp)).trans ps.map_id'
    change e.activities.map _ = _
    rw [h, List.map_append, List.map_cons, if_pos rfl, hsame before hb, hsame after ha]
  · have hsame : ∀ ps : List (Ticket × Activity P), (∀ p ∈ ps, p.1 ≠ t) → ps.filter (·.1 ≠ t) = ps :=
      fun ps hps => List.filter_eq_self.mpr fun p hp => decide_eq_true (hps p hp)
    change e.activities.filter _ = _
    rw [h, List.filter_append, List.filter_cons_of_neg (by simp), hsame before hb, hsame after ha]

theorem weight_set (b : Activity P) (n : Nat) :
    (e.set t b).weight n + a.energy n = e.weight n + b.energy n := by
  obtain ⟨before,after,h,hset,_⟩ := activities_split hk hu
  simp only [weight, h, hset, List.map_append, List.map_cons, List.sum_append, List.sum_cons]
  simp only [set]
  omega

theorem size_set {b : Activity P} (hb : b.isAnalysis = a.isAnalysis) : (e.set t b).size = e.size := by
  obtain ⟨before,after,h,hset,_⟩ := activities_split hk hu
  simp [size, h, hset, List.countP_append, List.countP_cons, hb]

theorem weight_remove (n : Nat) : (e.remove t).weight n + a.energy n = e.weight n := by
  obtain ⟨before,after,h,_,hremove⟩ := activities_split hk hu
  simp only [weight, h, hremove, List.map_append, List.map_cons, List.sum_append, List.sum_cons]
  simp only [remove]
  omega

omit hk hu in
theorem size_remove (e : Engine P) (t : Ticket) : (e.remove t).size ≤ e.size :=
  List.filter_sublist.countP_le

theorem size_remove_analysis (ha : a.isAnalysis = true) : (e.remove t).size = e.size := by
  obtain ⟨before,after,h,_,hremove⟩ := activities_split hk hu
  simp [size, h, hremove, List.countP_append, ha]

theorem seek_weight (hr : e.stopped = false) (hd : e.queue.shutDown = false) {stage : Stage P}
    (ha : a = .loop stage) (n : Nat) :
    (e.seek t).size = e.size ∧ (e.seek t).weight n + a.energy n ≤ e.weight n + (n + 2) := by
  subst ha
  rcases seek_cases hr hd t with ⟨s,rest,hf,he⟩ | he
  · obtain ⟨skipped,l,horder,_⟩ := Store.firstOpen?_some hf
    have hlen : rest.length + 1 ≤ e.queue.order.length := by
      rw [horder, List.length_append, List.length_cons]
      omega
    have hcost := Nat.mul_le_mul_left (n + 5) hlen
    let e₁ : Engine P := { e with bell := e.bell.answer t, queue := e.queue.leave rest }
    have hset := weight_set (e := e₁) hk hu (.loop (.underway s)) n
    have hsize := size_set (e := e₁) hk hu (b := .loop (.underway s)) rfl
    have hstart := weight_start (e₁.set t (.loop (.underway s))) (.analysis t s none) n
    have hw : e₁.weight n + (n + 5) * e.queue.order.length = e.weight n + (n + 5) * rest.length := by
      simp only [weight, e₁, Queue.leave]
      omega
    have hbusy : (Activity.loop (.underway s) : Activity P).energy n = 2 * n + 3 := rfl
    have hbegun : (Activity.analysis t s none : Activity P).energy n = 2 := rfl
    rw [Nat.mul_succ] at hcost
    rw [he]
    refine ⟨(size_analysis _ t s).trans hsize, ?_⟩
    change ((e₁.set t (.loop (.underway s))).start (.analysis t s none)).weight n + _ ≤ _
    omega
  · let e₁ : Engine P := { e with bell := (e.bell.answer t).wait t, queue := e.queue.leave [] }
    have hset := weight_set (e := e₁) hk hu (.loop .idle) n
    have hw : e₁.weight n ≤ e.weight n := by
      simp only [weight, e₁, Queue.leave, List.length_nil, Nat.mul_zero]
      omega
    have hidle : (Activity.loop .idle : Activity P).energy n = n + 2 := rfl
    rw [he]
    refine ⟨size_set (e := e₁) hk hu rfl, ?_⟩
    change (e₁.set t (.loop .idle)).weight n + _ ≤ _
    omega

theorem caller_weight {e' : Engine P} (ha : a.isCaller = true)
    (he : (∃ x, e' = e.finish t x) ∨ ∃ v, e' = e.set t (.watch v)) (n : Nat) :
    e'.size ≤ e.size ∧ e'.weight n ≤ e.weight n := by
  rcases he with ⟨x,rfl⟩ | ⟨v,rfl⟩
  · have hw := weight_remove hk hu n
    have hf : (e.finish t x).weight n = (e.remove t).weight n := rfl
    exact ⟨e.size_remove t, by omega⟩
  · have hn : (Activity.watch v : Activity P).isAnalysis = a.isAnalysis := by
      cases a <;> simp [Activity.isCaller] at ha <;> rfl
    have hw := weight_set hk hu (.watch v) n
    have hv : (Activity.watch v : Activity P).energy n = 0 := rfl
    exact ⟨Nat.le_of_eq (size_set hk hu hn), by omega⟩

end Weights

theorem conclude_weight (w : Worker P) (e : Engine P) (s : Snapshot) (verdict : Verdict P) (n : Nat) :
    (e.conclude w s verdict).1.weight n ≤ e.weight n + (e.watchers s.generation).length := by
  have hp : ∀ payload, (e.publish s payload).1.weight n ≤ e.weight n + (e.watchers s.generation).length := by
    intro payload
    unfold publish
    dsimp only
    split
    · exact weight_wakeAll _ _ n
    · exact Nat.le_add_right _ _
  cases verdict with
  | found payload =>
    simp only [conclude]
    split <;> exact hp payload
  | _ => exact Nat.le_add_right _ _

theorem judge_weight (w : Worker P) {e : Engine P} (hk : (e.activities.map (·.1)).Nodup) {t : Ticket} (ht : t ≠ 0)
    {s s' : Snapshot} {c : Option Nat} (hu : e.activity? t = some (.analysis 0 s c))
    (hg : e.stage? = some (.underway s')) (call n : Nat) :
    (e.judge w t 0 s call).size = e.size ∧ (e.judge w t 0 s call).weight n ≤ e.weight n := by
  have hg' : (e.remove t).activity? 0 = some (.loop (.underway s')) := by
    rw [activity?_remove, if_neg (Ne.symm ht)]
    exact stage?_eq.mp hg
  have hk' : ((e.remove t).activities.map (·.1)).Nodup := hk.sublist (List.filter_sublist.map _)
  obtain ⟨verdict,hv⟩ : ∃ verdict, w.analyzer call s.text s.version = verdict := ⟨_,rfl⟩
  have he : e.judge w t 0 s call = ((e.remove t).set 0 (.loop (.judged s verdict))).wakeAll [0] := by
    simp only [judge, deliver, hg', hv]
    rfl
  have hremoved := weight_remove hk hu n
  have hset := weight_set hk' hg' (.loop (.judged s verdict)) n
  have hwoken := weight_wakeAll ((e.remove t).set 0 (.loop (.judged s verdict))) [0] n
  have hbusy : (Activity.loop (.underway s') : Activity P).energy n = 2 * n + 3 := rfl
  have hjudged : (Activity.loop (.judged s verdict) : Activity P).energy n = 2 * n + 3 := rfl
  have hbegun : (Activity.analysis 0 s c : Activity P).energy n = 2 := rfl
  rw [List.length_singleton] at hwoken
  rw [he]
  have hsize := size_set hk' hg' (b := .loop (.judged s verdict)) rfl
  exact ⟨(keeps_wakeAll _ [0]).size.trans (hsize.trans (size_remove_analysis hk hu rfl)), by omega⟩

section Quiet

variable {w : Worker P} {e : Engine P} (h : e.Quiet) (hst : e.Staffed) (hk : (e.activities.map (·.1)).Nodup)
  (hl : e.lines = [])

include h hst hk hl

theorem Quiet.loopTurn_weight {stage : Stage P} (hu : e.activity? 0 = some (.loop stage)) :
    (e.loopTurn w 0 stage).size = e.size ∧ (e.loopTurn w 0 stage).weight e.size ≤ e.weight e.size := by
  have hd : e.queue.shutDown = false := hst.shut.trans h.running
  cases stage with
  | idle =>
    obtain ⟨hsize,hw⟩ := seek_weight hk hu h.running hd rfl e.size
    have hidle : (Activity.loop .idle : Activity P).energy e.size = e.size + 2 := rfl
    exact ⟨hsize, Nat.le_of_add_le_add_right (hidle ▸ hw)⟩
  | underway s => exact ⟨rfl, Nat.le_refl _⟩
  | judged s verdict =>
    have k := keeps_conclude w e s verdict
    have hd' : (e.conclude w s verdict).1.queue.shutDown = false := by
      rw [conclude_queue]
      exact hd
    obtain ⟨hsize,hw⟩ := seek_weight (e := (e.conclude w s verdict).1) (k.activities ▸ hk)
      ((k.activity? 0).trans hu) (k.stopped.trans h.running) hd' rfl e.size
    have hc := conclude_weight w e s verdict e.size
    have hlen := watchers_length hl s.generation
    have hjudged : (Activity.loop (.judged s verdict) : Activity P).energy e.size = 2 * e.size + 3 := rfl
    refine ⟨hsize.trans k.size, ?_⟩
    change ((e.conclude w s verdict).1.seek 0).weight e.size ≤ _
    omega

theorem Quiet.turn_weight (t : Ticket) :
    (e.turn w t).size ≤ e.size ∧ (e.turn w t).weight e.size ≤ e.weight e.size := by
  cases hu : e.activity? t with
  | none =>
    rw [turn_of_none w hu]
    exact ⟨Nat.le_refl _, Nat.le_refl _⟩
  | some a =>
    have hne := hst.ticket_ne hu
    cases a with
    | loop stage =>
      obtain rfl := hst.loop_ticket hu
      obtain ⟨hsize,hw⟩ := h.loopTurn_weight (w := w) hst hk hl hu
      simp only [Engine.turn, hu]
      exact ⟨Nat.le_of_eq hsize, hw⟩
    | analysis owner s c =>
      obtain ⟨rfl,hg⟩ := hst.of_analysis hu
      obtain ⟨calls,hx⟩ := analysisTurn_ungated (w := w) h.ungated t 0 s c
      obtain ⟨hsize,hw⟩ := judge_weight w (e := { e with calls }) hk (hne (by simp)) hu hg (c.getD (e.calls + 1))
        e.size
      simp only [Engine.turn, hu, hx]
      exact ⟨Nat.le_of_eq hsize, hw⟩
    | call c =>
      have hm := h.mild t _ hu
      cases c with
      | wait id atLeast timeout token =>
        simp only [Engine.turn, hu, callTurn]
        refine caller_weight hk hu rfl ?_ _
        rcases e.watchFrom_cases t id atLeast timeout token .finding with hx | ⟨v,hv,_⟩
        · exact Or.inl hx
        · exact Or.inr ⟨v,hv⟩
      | _ => simp [Activity.isMild] at hm
    | watch v =>
      simp only [Engine.turn, hu]
      refine caller_weight hk hu rfl ?_ _
      rcases e.watchTurn_cases t v with hx | ⟨v',hv,_⟩
      · exact Or.inl hx
      · exact Or.inr ⟨v',hv⟩
    | shutdown begun => exact absurd (h.mild t _ hu) (by simp [Activity.isMild])
    | _ =>
      rcases hst.others t _ (hne (by simp)) hu with hc | ⟨s,c,hc,_⟩
      · simp [Activity.isCaller] at hc
      · simp at hc

end Quiet

theorem Quiet.step_energy (w : Worker P) {e : Engine P} (h : e.Quiet) (ho : e.Orderly) (hst : e.Staffed)
    (hd : e.Tidy none) (hs : e.isSettled = false) : (e.step w).energy < e.energy := by
  cases hr : e.ready with
  | nil =>
    have hlate : ¬ e.clock ≤ e.alarmed := by simpa [isSettled, hr] using hs
    have k : ({ e with alarmed := e.clock } : Engine P).Keeps e.soundAlarms := keeps_wakeAll _ _
    have hw : e.soundAlarms.weight e.size ≤ e.weight e.size + e.size :=
      Nat.le_trans (weight_wakeAll _ _ _)
        (Nat.add_le_add_left (overdue_length { e with alarmed := e.clock }) (e.weight e.size))
    have hstep : e.step w = e.soundAlarms := by simp only [step, hr]
    have hsound : e.soundAlarms.clock ≤ e.soundAlarms.alarmed := Nat.le_of_eq (k.clock.trans k.alarmed.symm)
    have hsize : e.soundAlarms.size = e.size := k.size
    have hheld : e.soundAlarms.abandoned = false := k.abandoned.trans h.held
    rw [hstep, energy_eq hheld, energy_eq h.held, if_pos hsound, if_neg hlate, hsize]
    omega
  | cons t rest =>
    let e₁ : Engine P := { e with ready := rest }
    have hq : e₁.Quiet := { h with }
    have hst₁ : e₁.Staffed := ⟨hst.begun,hst.first,hst.others,hst.sole,hst.shut⟩
    have ht := Engine.turned w e₁ ho.valid t
    have hcost := hq.turn_weight (w := w) hst₁ hd.once hd.lines t
    have hsize : (e₁.turn w t).size ≤ e.size := hcost.1
    have hw : (e₁.turn w t).weight e.size ≤ e₁.weight e.size := hcost.2
    have hmono := weight_mono hsize (e₁.turn w t)
    have hready : e₁.weight e.size + 1 = e.weight e.size := by
      simp only [weight, e₁, hr, List.length_cons]
      omega
    have hheld : (e₁.turn w t).abandoned = false := ht.abandoned.trans h.held
    have hstep : e.step w = e₁.turn w t := by
      simp only [step, hr]
      exact hangUp_held hheld
    rw [hstep, energy_eq hheld, energy_eq h.held, ht.clock, ht.alarmed]
    change (if e.clock ≤ e.alarmed then 0 else _) + _ < _
    split <;> omega

theorem step_clock (w : Worker P) {e : Engine P} (hv : e.store.Valid) : (e.step w).clock = e.clock := by
  unfold step
  split
  · exact (keeps_wakeAll _ _ : ({ e with alarmed := e.clock } : Engine P).Keeps e.soundAlarms).clock
  · rename_i t rest _
    have ht := (Engine.turned w { e with ready := rest } hv t).clock
    rcases (({ e with ready := rest } : Engine P).turn w t).hangUp_cases with hx | ⟨hx,_⟩
    · rw [hx]
      exact ht
    · rw [hx]
      exact ((keeps_shutQueue _).clock.trans (keeps_wakeAll _ _).clock).trans ht

end Engine

namespace Service

open Engine

section Settling

variable {analyzer : Analyzer P} {config : Config}

variable (analyzer config) in
theorem reached_step (moves : List Move) : ∃ more, (∀ m ∈ more, m.isInner = true) ∧
    (reached analyzer config none moves).step ⟨analyzer, config.updates⟩ =
      reached analyzer config none (moves ++ more) := by
  cases hr : (reached analyzer config none moves).ready with
  | nil =>
    refine ⟨[.alarms], by simp [Move.isInner], ?_⟩
    rw [reached_concat]
    simp only [Engine.step, hr]
    rfl
  | cons t rest =>
    refine ⟨[.turn 0, .hangUp], by simp [Move.isInner], ?_⟩
    rw [step_turn _ hr, List.append_cons, reached_concat, reached_concat]
    rfl

variable (analyzer config) in
theorem reached_run (n : Nat) {moves : List Move} (h : Mild moves)
    (hn : (reached analyzer config none moves).energy ≤ n) :
    ∃ more, (∀ m ∈ more, m.isInner = true) ∧
      (reached analyzer config none moves).run ⟨analyzer, config.updates⟩ n =
        reached analyzer config none (moves ++ more) ∧
      (reached analyzer config none (moves ++ more)).isSettled = true ∧
      (reached analyzer config none (moves ++ more)).clock = (reached analyzer config none moves).clock := by
  cases hs : (reached analyzer config none moves).isSettled with
  | true =>
    refine ⟨[], by simp, ?_⟩
    rw [List.append_nil]
    exact ⟨run_settled _ hs n, hs, rfl⟩
  | false =>
    have ho := orderly_reached analyzer config none moves
    have hlt := (quiet_reached analyzer config h).step_energy ⟨analyzer, config.updates⟩ ho
      (staffed_reached analyzer config none moves) (tidy_reached analyzer config (by simp) moves) hs
    cases n with
    | zero => omega
    | succ n =>
      have hclock := step_clock ⟨analyzer, config.updates⟩ ho.valid
      obtain ⟨first,hfirst,hstep⟩ := reached_step analyzer config moves
      rw [hstep] at hlt hclock
      obtain ⟨more,hmore,hrun,hsettled,hc⟩ := reached_run n (mild_append.mpr ⟨h,mild_of_inner hfirst⟩) (by omega)
      rw [List.append_assoc] at hrun hsettled hc
      refine ⟨first ++ more, List.forall_mem_append.mpr ⟨hfirst,hmore⟩, ?_, hsettled, hc.trans hclock⟩
      rw [run_succ _ hs, hstep, hrun]

theorem after_reached (analyzer : Analyzer P) (config : Config) (gate : Option Gate) (moves : List Move) :
    (Service.start analyzer config gate).after moves =
      { Service.start analyzer config gate with engine := reached analyzer config gate moves } := by
  rw [reached, after_eq]

variable (analyzer config) in
theorem settles {moves : List Move} (h : Mild moves) : ∃ more, (∀ m ∈ more, m.isInner = true) ∧
    ((Service.start analyzer config none).after moves).settle =
      (Service.start analyzer config none).after (moves ++ more) ∧
    (reached analyzer config none (moves ++ more)).isSettled = true ∧
    (reached analyzer config none (moves ++ more)).clock = (reached analyzer config none moves).clock := by
  obtain ⟨more,hinner,hrun,hs,hc⟩ := reached_run analyzer config _ h (Nat.le_refl _)
  refine ⟨more, hinner, ?_, hs, hc⟩
  rw [after_reached, after_reached, ← hrun]
  rfl

end Settling

end Service

end LiveAnalysis
