import LiveAnalysis.Proofs.EventLog
import LiveAnalysis.Proofs.Likeness

namespace LiveAnalysis

variable {P : Type}

/-!
What is done in a run: the requests, and the turns of the worker, of its analyses and of calls that have not
acted yet. Those who wait do nothing, even if they hold the engine until somebody else hangs up for them.
-/

inductive Deed where
  | asks (r : Request)
  | acts (t : Ticket)
  | hangsUp
  deriving DecidableEq, Repr

namespace Engine

def hangsUp (e : Engine P) : Bool :=
  e.abandoned && !e.stopped && !e.activities.any (·.2.isCaller)

def deed? (e : Engine P) : Service.Move → Option Deed
  | .ask .abandon => if ({ e with abandoned := true } : Engine P).hangsUp then some .hangsUp else none
  | .ask r => some (.asks r)
  | .turn place =>
    (e.ready[place]?).bind fun t => if (e.activity? t).any (!·.isBystander) then some (.acts t) else none
  | .alarms => none
  | .hangUp => if e.hangsUp then some .hangsUp else none

def deeds (w : Worker P) (e : Engine P) : List Service.Move → List Deed
  | [] => []
  | m :: moves => (e.deed? m).toList ++ deeds w (e.move w m.engine) moves

structure Steady (e : Engine P) : Prop where
  orderly : e.Orderly
  staffed : e.Staffed
  tidy : e.Tidy none

theorem Steady.move {e : Engine P} (h : e.Steady) (w : Worker P) (m : Service.Move) :
    (e.move w m.engine).Steady :=
  ⟨h.orderly.move w m.engine, h.staffed.move h.orderly m, h.tidy.move w h.staffed h.orderly.valid m⟩

theorem mem_eraseIdx {ready : List Ticket} (hn : ready.Nodup) {place : Nat} {t : Ticket}
    (ht : ready[place]? = some t) (u : Ticket) : u ∈ ready.eraseIdx place ↔ u ∈ ready ∧ u ≠ t := by
  obtain ⟨hlt,rfl⟩ := List.getElem?_eq_some_iff.mp ht
  rw [← hn.erase_getElem, hn.mem_erase_iff, and_comm]

theorem Tidy.taking {e : Engine P} (h : e.Tidy none) {place : Nat} {t : Ticket}
    (ht : e.ready[place]? = some t) :
    ({ e with ready := e.ready.eraseIdx place } : Engine P).Tidy (some t) := by
  have hmem := mem_eraseIdx h.ready ht
  refine h.acting t _ (h.ready.sublist (List.eraseIdx_sublist _ _)) ?_ ?_
  · exact fun u hu => ((hmem u).mp hu).1
  · exact fun u hu hut => (hmem u).mpr ⟨hu,hut⟩

inductive Done (e : Engine P) : Service.Move → Option Deed → Prop where
  | asks {r : Request} (hr : r ≠ .abandon) : Done e (.ask r) (some (.asks r))
  | acts {place : Nat} {t : Ticket} {a : Activity P} (ht : e.ready[place]? = some t)
    (hu : e.activity? t = some a) (ha : a.isBystander = false) : Done e (.turn place) (some (.acts t))
  | hangsUp {m : Service.Move} (abandoned : Bool) (hn : e.turning? m.engine = none)
    (he : ∀ w, e.move w m.engine = ({ e with abandoned } : Engine P).stop.shutQueue) :
    Done e m (some .hangsUp)
  | passes {place : Nat} {t : Ticket} (ht : e.ready[place]? = some t)
    (ha : ∀ a, e.activity? t = some a → a.isBystander = true) : Done e (.turn place) none
  | alarms : Done e .alarms none
  | rests {m : Service.Move} (abandoned : Bool) (hn : e.turning? m.engine = none)
    (he : ∀ w, e.move w m.engine = { e with abandoned }) : Done e m none

theorem hangUp_eq (e : Engine P) : e.hangUp = if e.hangsUp then e.stop.shutQueue else e := rfl

theorem done (e : Engine P) (m : Service.Move) : e.Done m (e.deed? m) := by
  cases m with
  | ask r =>
    cases r with
    | abandon =>
      simp only [deed?]
      split
      · rename_i hh
        exact .hangsUp true rfl fun _ => (hangUp_eq _).trans (if_pos hh)
      · rename_i hh
        exact .rests true rfl fun _ => (hangUp_eq _).trans (if_neg hh)
    | _ => exact .asks (by simp)
  | turn place =>
    simp only [deed?]
    cases ht : e.ready[place]? with
    | none => exact .rests e.abandoned ht fun _ => by simp only [Service.Move.engine, move, ht]
    | some t =>
      rw [Option.bind_some]
      cases hu : e.activity? t with
      | none => exact .passes ht (by simp [hu])
      | some a =>
        cases ha : a.isBystander with
        | true => simpa [ha] using Done.passes ht (by simp [hu, ha])
        | false => simpa [ha] using Done.acts ht hu ha
  | alarms => exact .alarms
  | hangUp =>
    simp only [deed?]
    split
    · rename_i hh
      exact .hangsUp e.abandoned rfl fun _ => (hangUp_eq e).trans (if_pos hh)
    · rename_i hh
      exact .rests e.abandoned rfl fun _ => (hangUp_eq e).trans (if_neg hh)

section Deeds

variable {d : DocumentId} {e e₁ e₂ : Engine P} {m m₁ m₂ : Service.Move} {t : Ticket} (w : Worker P)

theorem alike_bystander (hst : e.Staffed) {a : Activity P} (hu : e.activity? t = some a)
    (ha : a.isBystander = true) : (e.turn w t).Alike d e := by
  have hs : e.seen? d t = none := by
    rw [seen?, hu]
    exact if_pos ha
  cases a with
  | watch v =>
    simp only [turn, hu]
    exact (e.alike_watchTurn t v).trans (.unseen hs)
  | shutdown begun =>
    cases begun with
    | true =>
      simp only [turn, hu]
      exact Alike.trans { Alike.refl d (e.remove t) with } (.unseen hs)
    | false => simp [Activity.isBystander] at ha
  | wait place atLeast =>
    rcases hst.others t _ (hst.ticket_ne hu (by simp)) hu with hc | ⟨s,c,hc,_⟩
    · simp [Activity.isCaller] at hc
    · simp at hc
  | _ => simp [Activity.isBystander] at ha

theorem Alike.taking (h : e₁.Alike d e₂) (t₁ : e₁.Tidy none) (t₂ : e₂.Tidy none) {place₁ place₂ : Nat}
    (h₁ : e₁.ready[place₁]? = some t) (h₂ : e₂.ready[place₂]? = some t) :
    ({ e₁ with ready := e₁.ready.eraseIdx place₁ } : Engine P).Alike d
      { e₂ with ready := e₂.ready.eraseIdx place₂ } := by
  refine { h with ready := fun u a hu => ?_ }
  have hu : e₁.seen? d u = some a := hu
  simp only [mem_eraseIdx t₁.ready h₁, mem_eraseIdx t₂.ready h₂, h.ready u a hu]

theorem alike_idle (h : e.Steady) (hd : e.deed? m = none) : (e.move w m.engine).Alike d e := by
  have hdone := e.done m
  rw [hd] at hdone
  cases hdone with
  | passes ht ha =>
    rename_i place t
    have hs : e.seen? d t = none := by
      cases hu : e.activity? t with
      | none => rw [seen?, hu]; rfl
      | some a => rw [seen?, hu]; exact if_pos (ha a hu)
    have hready : ({ e with ready := e.ready.eraseIdx place } : Engine P).Alike d e := by
      refine { Alike.refl d e with ready := fun u a hu => ?_ }
      have hu : e.seen? d u = some a := hu
      rw [mem_eraseIdx h.tidy.ready ht, and_iff_left]
      rintro rfl
      simp [hs] at hu
    simp only [Service.Move.engine, move, ht]
    cases hu : e.activity? t with
    | none =>
      rw [turn_of_none w (by exact hu)]
      exact hready
    | some a =>
      have hst : ({ e with ready := e.ready.eraseIdx place } : Engine P).Staffed :=
        ⟨h.staffed.begun,h.staffed.first,h.staffed.others,h.staffed.sole,h.staffed.shut⟩
      exact (alike_bystander w hst (by exact hu) (ha a hu)).trans hready
  | alarms =>
    refine Alike.wakeLeft ?_ ?_
    · exact { Alike.refl d e with }
    · exact unseen_overdue (e := { e with alarmed := e.clock }) h.tidy.once
  | rests abandoned _ he =>
    rw [he]
    exact { Alike.refl d e with }

theorem Alike.follows (h : e₁.Alike d e₂) (s₁ : e₁.Steady) (s₂ : e₂.Steady) (w₁ w₂ : Worker P) {deed : Deed}
    (h₁ : e₁.deed? m₁ = some deed) (h₂ : e₂.deed? m₂ = some deed)
    (hw : ∀ t s c, e₁.turning? m₁.engine = some t → e₁.activity? t = some (.analysis 0 s c) → s.id ≠ d →
      w₁.analyzer (c.getD (e₁.calls + 1)) s.text s.version =
        w₂.analyzer (c.getD (e₁.calls + 1)) s.text s.version) :
    (e₁.move w₁ m₁.engine).Alike d (e₂.move w₂ m₂.engine) := by
  have hdone₁ := e₁.done m₁
  have hdone₂ := e₂.done m₂
  rw [h₁] at hdone₁
  rw [h₂] at hdone₂
  cases hdone₁ with
  | asks hr =>
    cases hdone₂
    exact h.ask s₁.tidy s₂.tidy w₁ w₂ hr
  | acts ht₁ hu ha =>
    rename_i place₁ t a
    cases hdone₂ with
    | acts ht₂ =>
      have hst : ({ e₁ with ready := e₁.ready.eraseIdx place₁ } : Engine P).Staffed :=
        ⟨s₁.staffed.begun,s₁.staffed.first,s₁.staffed.others,s₁.staffed.sole,s₁.staffed.shut⟩
      have hs : e₁.seen? d t = some (a.blur d) := by
        rw [seen?, hu, Option.bind_some, Activity.seen?, ha]
        rfl
      simp only [Service.Move.engine, move, ht₁, ht₂]
      exact (h.taking s₁.tidy s₂.tidy ht₁ ht₂).turn (s₁.tidy.taking ht₁) (s₂.tidy.taking ht₂) w₁ w₂ hst
        s₁.orderly.valid s₂.orderly.valid hs (hw t · · ht₁)
  | hangsUp abandoned₁ _ he₁ =>
    cases hdone₂ with
    | hangsUp abandoned₂ _ he₂ =>
      rw [he₁, he₂]
      refine (Alike.stop ?_ ?_ ?_).shutQueue
      · exact { h with }
      · exact s₁.tidy.once
      · exact s₂.tidy.once

theorem idle_attempt? (hd : e.deed? m = none) :
    e.attempt? m.engine = none ∧ e.consulted? m.engine = none := by
  have hdone := e.done m
  rw [hd] at hdone
  cases hdone with
  | passes ht ha =>
    simp only [attempt?, consulted?, Service.Move.engine, turning?, ht, Option.bind_some]
    cases hu : e.activity? _ with
    | none => exact ⟨rfl,rfl⟩
    | some a =>
      have hb := ha a hu
      cases a <;> simp [Activity.isBystander] at hb <;> exact ⟨rfl,rfl⟩
  | alarms => exact ⟨rfl,rfl⟩
  | rests abandoned hn he => simp only [attempt?, consulted?, hn, Option.bind_none, and_self]

theorem Alike.attempts (h : e₁.Alike d e₂) {deed : Deed}
    (h₁ : e₁.deed? m₁ = some deed) (h₂ : e₂.deed? m₂ = some deed) :
    e₁.consulted? m₁.engine = e₂.consulted? m₂.engine ∧
    (e₁.attempt? m₁.engine = none ∧ e₂.attempt? m₂.engine = none ∨
      ∃ s v₁ v₂, e₁.attempt? m₁.engine = some (s,v₁) ∧ e₂.attempt? m₂.engine = some (s,v₂) ∧
        (s.id ≠ d → v₁ = v₂)) := by
  have hdone₁ := e₁.done m₁
  have hdone₂ := e₂.done m₂
  rw [h₁] at hdone₁
  rw [h₂] at hdone₂
  cases hdone₁ with
  | asks hr =>
    cases hdone₂
    exact ⟨rfl, Or.inl ⟨rfl,rfl⟩⟩
  | acts ht₁ hu ha =>
    rename_i place₁ t a
    cases hdone₂ with
    | acts ht₂ =>
      simp only [attempt?, consulted?, Service.Move.engine, turning?, ht₁, ht₂, Option.bind_some, hu]
      by_cases hl : ∃ stage, a = .loop stage
      · obtain ⟨stage₁,rfl⟩ := hl
        obtain ⟨stage₂,hu₂,hb⟩ := h.loop hu
        rw [hu₂]
        refine ⟨rfl, ?_⟩
        rcases Stage.blur_cases hb with ⟨rfl,hn⟩ | ⟨s,v₁,v₂,rfl,rfl,hv⟩
        · cases stage₁ with
          | judged s v => simp [Stage.verdict?] at hn
          | _ => exact Or.inl ⟨rfl,rfl⟩
        · exact Or.inr ⟨s, v₁, v₂, rfl, rfl, hv⟩
      · rw [h.same hu ha fun stage hs => hl ⟨stage,hs⟩, h.calls, Option.bind_some]
        refine ⟨rfl, ?_⟩
        cases hv : a.verdict? with
        | none => exact Or.inl ⟨rfl,rfl⟩
        | some v => exact Or.inr ⟨v.1, v.2, v.2, rfl, rfl, fun _ => rfl⟩
  | hangsUp abandoned₁ hn₁ =>
    cases hdone₂ with
    | hangsUp abandoned₂ hn₂ => simp only [attempt?, consulted?, hn₁, hn₂, Option.bind_none, and_self, true_or]

theorem stored?_snapshot {m : Move} {s : Snapshot} {verdict : Verdict P}
    (h : e.attempt? m = some (s,verdict)) {x : Snapshot × P} (hx : e.stored? m = some x) : x.1 = s := by
  unfold stored? at hx
  rw [h] at hx
  cases verdict with
  | found payload =>
    dsimp only at hx
    split at hx
    · exact congrArg Prod.fst (Option.some.inj hx).symm
    · simp at hx
  | _ => simp at hx

theorem Alike.stored (h : e₁.Alike d e₂) (hv₁ : e₁.store.Valid) (hv₂ : e₂.store.Valid) {deed : Deed}
    (h₁ : e₁.deed? m₁ = some deed) (h₂ : e₂.deed? m₂ = some deed) :
    (e₁.stored? m₁.engine).toList.filter (fun x => x.1.id ≠ d) =
      (e₂.stored? m₂.engine).toList.filter (fun x => x.1.id ≠ d) := by
  rcases (h.attempts h₁ h₂).2 with ⟨ha₁,ha₂⟩ | ⟨s,v₁,v₂,ha₁,ha₂,hv⟩
  · simp only [stored?, ha₁, ha₂]
  by_cases hd : s.id = d
  · have hnone : ∀ (e : Engine P) m v, e.attempt? m = some (s,v) →
        (e.stored? m).toList.filter (fun x => x.1.id ≠ d) = [] := by
      intro e m v ha
      refine List.filter_eq_nil_iff.mpr fun x hx => ?_
      rw [stored?_snapshot ha (Option.mem_toList.mp hx)]
      simpa using hd
    rw [hnone e₁ _ _ ha₁, hnone e₂ _ _ ha₂]
  · obtain rfl := hv hd
    have hp := fun payload => (Store.publish_alike hv₁ hv₂ h.store hd payload).2
    cases v₁ with
    | found payload => simp only [stored?, ha₁, ha₂, hp payload]
    | _ => simp only [stored?, ha₁, ha₂]

end Deeds

def Agreeing (d : DocumentId) (w₁ w₂ : Worker P) (c : Nat × Snapshot) : Prop :=
  c.2.id ≠ d → w₁.verdict c = w₂.verdict c

structure Parallel (d : DocumentId) (w₁ w₂ : Worker P) (e₁ e₂ : Engine P) : Prop where
  alike : e₁.Alike d e₂
  left : e₁.Steady
  right : e₂.Steady
  numbered : ∀ t owner s call, e₁.activity? t = some (.analysis owner s (some call)) →
    Agreeing d w₁ w₂ (call,s)

namespace Parallel

variable {d : DocumentId} {w₁ w₂ : Worker P} {e₁ e₂ : Engine P} {m₁ m₂ : Service.Move}
  (h : Parallel d w₁ w₂ e₁ e₂)

include h

theorem numbered_move (hw : ∀ c, e₁.consulted? m₁.engine = some c → Agreeing d w₁ w₂ c) (t owner : Ticket)
    (s : Snapshot) (call : Nat)
    (hu : (e₁.move w₁ m₁.engine).activity? t = some (.analysis owner s (some call))) :
    Agreeing d w₁ w₂ (call,s) := by
  rcases numbered_came h.left.orderly hu with hu | hc
  · exact h.numbered t owner s call hu
  · exact hw _ hc

theorem idle_left (h₁ : e₁.deed? m₁ = none) : Parallel d w₁ w₂ (e₁.move w₁ m₁.engine) e₂ where
  alike := (alike_idle w₁ h.left h₁).trans h.alike
  left := h.left.move w₁ m₁
  right := h.right
  numbered := h.numbered_move (by simp [(idle_attempt? h₁).2])

theorem idle_right (h₂ : e₂.deed? m₂ = none) : Parallel d w₁ w₂ e₁ (e₂.move w₂ m₂.engine) where
  alike := h.alike.trans (alike_idle w₂ h.right h₂).symm
  left := h.left
  right := h.right.move w₂ m₂
  numbered := h.numbered

theorem follows {deed : Deed} (h₁ : e₁.deed? m₁ = some deed) (h₂ : e₂.deed? m₂ = some deed)
    (hw : ∀ c, e₁.consulted? m₁.engine = some c → Agreeing d w₁ w₂ c) :
    Parallel d w₁ w₂ (e₁.move w₁ m₁.engine) (e₂.move w₂ m₂.engine) where
  alike := by
    refine h.alike.follows h.left h.right w₁ w₂ h₁ h₂ fun t s c ht hu hd => ?_
    have hagree : Agreeing d w₁ w₂ (c.getD (e₁.calls + 1), s) := by
      cases c with
      | none => exact hw _ (consulted?_some.mpr ⟨rfl,t,0,ht,hu⟩)
      | some call => exact h.numbered t 0 s call hu
    exact congrArg Prod.snd (hagree hd)
  left := h.left.move w₁ m₁
  right := h.right.move w₂ m₂
  numbered := h.numbered_move hw

end Parallel

def storedApart (d : DocumentId) (w : Worker P) (e : Engine P) (moves : List Service.Move) :
    List (Snapshot × P) :=
  (e.record w stored? (moves.map Service.Move.engine)).filter fun x => x.1.id ≠ d

theorem storedApart_cons (d : DocumentId) (w : Worker P) (e : Engine P) (m : Service.Move)
    (moves : List Service.Move) : e.storedApart d w (m :: moves) =
      (e.stored? m.engine).toList.filter (fun x => x.1.id ≠ d) ++
        (e.move w m.engine).storedApart d w moves :=
  List.filter_append _ _

theorem idle_cons (d : DocumentId) (w : Worker P) {e : Engine P} {m : Service.Move} (h : e.deed? m = none)
    (moves : List Service.Move) : e.deeds w (m :: moves) = (e.move w m.engine).deeds w moves ∧
      e.consulted w ((m :: moves).map Service.Move.engine) =
        (e.move w m.engine).consulted w (moves.map Service.Move.engine) ∧
      e.storedApart d w (m :: moves) = (e.move w m.engine).storedApart d w moves := by
  obtain ⟨ha,hc⟩ := idle_attempt? h
  refine ⟨?_, ?_, ?_⟩
  · rw [deeds, h]
    rfl
  · rw [consulted, List.map_cons, record, hc]
    rfl
  · rw [storedApart_cons, stored?, ha]
    rfl

-- Whichever run stands still goes on alone until both come to the same deed.
theorem Parallel.run {d : DocumentId} {w₁ w₂ : Worker P} {e₁ e₂ : Engine P}
    (h : Parallel d w₁ w₂ e₁ e₂) : ∀ moves₁ moves₂ : List Service.Move,
    e₁.deeds w₁ moves₁ = e₂.deeds w₂ moves₂ →
    (∀ c ∈ e₁.consulted w₁ (moves₁.map Service.Move.engine), Agreeing d w₁ w₂ c) →
    e₁.consulted w₁ (moves₁.map Service.Move.engine) = e₂.consulted w₂ (moves₂.map Service.Move.engine) ∧
      e₁.storedApart d w₁ moves₁ = e₂.storedApart d w₂ moves₂
  | [], [], _, _ => ⟨rfl,rfl⟩
  | [], m₂ :: moves₂, hd, hw => by
    cases h₂ : e₂.deed? m₂ with
    | some deed => simp [deeds, h₂] at hd
    | none =>
      obtain ⟨hd₂,hc₂,hs₂⟩ := idle_cons d w₂ h₂ moves₂
      rw [hc₂, hs₂]
      exact (h.idle_right h₂).run [] moves₂ (hd.trans hd₂) hw
  | m₁ :: moves₁, moves₂, hd, hw => by
    cases h₁ : e₁.deed? m₁ with
    | none =>
      obtain ⟨hd₁,hc₁,hs₁⟩ := idle_cons d w₁ h₁ moves₁
      rw [hc₁] at hw ⊢
      rw [hs₁]
      exact (h.idle_left h₁).run moves₁ moves₂ (hd₁.symm.trans hd) hw
    | some deed =>
      match moves₂, hd with
      | [], hd => simp [deeds, h₁] at hd
      | m₂ :: moves₂, hd =>
        cases h₂ : e₂.deed? m₂ with
        | none =>
          obtain ⟨hd₂,hc₂,hs₂⟩ := idle_cons d w₂ h₂ moves₂
          rw [hc₂, hs₂]
          exact (h.idle_right h₂).run (m₁ :: moves₁) moves₂ (hd.trans hd₂) hw
        | some deed₂ =>
          simp only [deeds, h₁, h₂, Option.toList_some, List.cons_append, List.nil_append,
            List.cons.injEq] at hd
          obtain ⟨rfl,hd⟩ := hd
          have hc := (h.alike.attempts h₁ h₂).1
          have hs := h.alike.stored h.left.orderly.valid h.right.orderly.valid h₁ h₂
          simp only [consulted, List.map_cons, record, List.mem_append, Option.mem_toList] at hw ⊢
          obtain ⟨hrest,hstored⟩ := (h.follows h₁ h₂ fun c hx => hw c (Or.inl hx)).run moves₁ moves₂ hd
            fun c hx => hw c (Or.inr hx)
          exact ⟨by rw [hc]; exact congrArg _ hrest, by rw [storedApart_cons, storedApart_cons, hs, hstored]⟩
  termination_by moves₁ moves₂ => moves₁.length + moves₂.length

theorem move_abandoned (w : Worker P) {e : Engine P} (hv : e.store.Valid) {m : Service.Move}
    (hm : m ≠ .ask .abandon) : (e.move w m.engine).abandoned = e.abandoned := by
  cases m with
  | ask r =>
    cases r with
    | openDocument id text =>
      simp only [Service.Move.engine, move, Service.receive]
      split
      · exact (keeps_noteOpened ‹_›).abandoned
      · rfl
    | change id text =>
      simp only [Service.Move.engine, move, Service.receive]
      split
      · exact (keeps_noteChanged ‹_›).abandoned
      · rfl
    | close id =>
      simp only [Service.Move.engine, move, Service.receive]
      split
      · exact (keeps_noteClosed ‹_›).abandoned
      · rfl
    | analyse id =>
      simp only [Service.Move.engine, move, Service.receive]
      split
      · exact (keeps_requestAnalysis ‹_›).1.abandoned
      · rfl
    | analyseAll ids =>
      have hk := (e.keeps_requestAnalyses ids).1.abandoned
      simp only [Service.Move.engine, move, Service.receive]
      split <;> rename_i hr <;> rw [hr] at hk <;> exact hk
    | cancel token => exact (keeps_wakeAll _ _).abandoned
    | abandon => exact absurd rfl hm
    | release permits => exact (e.keeps_release permits).abandoned
    | _ => rfl
  | turn place =>
    simp only [Service.Move.engine, move]
    split
    · rfl
    · exact (turned w ({ e with ready := e.ready.eraseIdx place } : Engine P) hv _).abandoned
  | alarms => exact (keeps_wakeAll _ _).abandoned
  | hangUp =>
    rcases e.hangUp_cases with he | ⟨he,_⟩
    · simp only [Service.Move.engine, move, he]
    · simp only [Service.Move.engine, move, he]
      exact (keeps_shutQueue _).abandoned.trans (keeps_wakeAll _ _).abandoned

theorem stays_held {e : Engine P} (h : e.abandoned = false) {m : Service.Move} (hm : m ≠ .ask .abandon) :
    e.deed? m ≠ some .hangsUp := by
  intro hd
  cases m with
  | hangUp => simp [deed?, hangsUp, h] at hd
  | ask r => cases r <;> simp [deed?] at hd hm
  | turn place =>
    obtain ⟨t,_,ht⟩ := Option.bind_eq_some_iff.mp hd
    split at ht <;> simp at ht
  | alarms => simp [deed?] at hd

theorem Alike.offers {d : DocumentId} {e₁ e₂ : Engine P} (h : e₁.Alike d e₂) (hab : e₁.abandoned = false)
    {m₁ : Service.Move} (hm : m₁ ≠ .ask .abandon) {deed : Deed} (hd : e₁.deed? m₁ = some deed) :
    ∃ m₂, e₂.deed? m₂ = some deed := by
  have hdone := e₁.done m₁
  rw [hd] at hdone
  cases hdone with
  | asks hr =>
    rename_i r
    refine ⟨.ask r, ?_⟩
    cases r with
    | abandon => exact absurd rfl hr
    | _ => rfl
  | acts ht hu ha =>
    rename_i place t a
    have hs : e₁.seen? d t = some (a.blur d) := by
      rw [seen?, hu, Option.bind_some, Activity.seen?, ha]
      rfl
    obtain ⟨b,hb,hbs⟩ := activity?_of_seen ((h.seen t).symm.trans hs)
    obtain ⟨place₂,ht₂⟩ := List.mem_iff_getElem?.mp ((h.ready t _ hs).mp (List.mem_of_getElem? ht))
    have hbb : b.isBystander = false := by
      cases hx : b.isBystander with
      | true => simp [Activity.seen?, hx] at hbs
      | false => rfl
    exact ⟨.turn place₂, by simp [deed?, ht₂, hb, hbb]⟩
  | hangsUp => exact absurd hd (stays_held hab hm)

theorem Parallel.matched {d : DocumentId} {w₁ w₂ : Worker P} {e₁ e₂ : Engine P}
    (h : Parallel d w₁ w₂ e₁ e₂) (hab : e₁.abandoned = false) {moves₁ : List Service.Move}
    (hm : .ask .abandon ∉ moves₁)
    (hw : ∀ c ∈ e₁.consulted w₁ (moves₁.map Service.Move.engine), Agreeing d w₁ w₂ c) :
    ∃ moves₂, e₁.deeds w₁ moves₁ = e₂.deeds w₂ moves₂ := by
  induction moves₁ generalizing e₁ e₂ with
  | nil => exact ⟨[],rfl⟩
  | cons m₁ moves₁ ih =>
    rw [List.mem_cons, not_or] at hm
    have hab' := (move_abandoned w₁ h.left.orderly.valid (Ne.symm hm.1)).trans hab
    cases h₁ : e₁.deed? m₁ with
    | none =>
      obtain ⟨hd,hc,_⟩ := idle_cons d w₁ h₁ moves₁
      rw [hc] at hw
      rw [hd]
      exact ih (h.idle_left h₁) hab' hm.2 hw
    | some deed =>
      obtain ⟨m₂,h₂⟩ := h.alike.offers hab (Ne.symm hm.1) h₁
      simp only [consulted, List.map_cons, record, List.mem_append, Option.mem_toList] at hw
      obtain ⟨moves₂,hd⟩ := ih (h.follows h₁ h₂ fun c hx => hw c (Or.inl hx)) hab' hm.2
        fun c hx => hw c (Or.inr hx)
      exact ⟨m₂ :: moves₂, by rw [deeds, deeds, h₁, h₂, hd]⟩

end Engine

end LiveAnalysis
