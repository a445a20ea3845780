import LiveAnalysis.Proofs.Deliveries
import LiveAnalysis.Proofs.Waits

namespace LiveAnalysis

variable {P : Type}

/-- An engine whose loops may also be told to stop one by one. -/
structure Crew (P : Type) where
  engine : Engine P := {}
  told : List Ticket := []

namespace Engine

variable {w : Worker P}

theorem Turned.restopped {e e' : Engine P} {t : Ticket} (h : Turned w { e with stopped := true } t e') :
    Turned w e t { e' with stopped := e.stopped } where
  change := h.change
  arises u a hu := by
    have ha : Arises w e e' t u a := (h.arises u a hu).of_activities (fun _ => rfl) rfl rfl
    exact ha.same (fun _ => rfl) rfl rfl
  others := h.others
  alert u v hu ha l hl := (h.alert u v hu ha l hl).imp_right fun hx => ⟨rfl,hx.2⟩
  ended := h.ended
  toOnward := { h.toOnward with stopped := fun hs => hs }

theorem seek_stopped {e : Engine P} (hs : e.stopped = true) (t : Ticket) : e.seek t = e.endLoop t :=
  if_pos hs

theorem loopTurn_stopped (w : Worker P) {e : Engine P} (hs : e.stopped = true) (t : Ticket) (stage : Stage P) :
    (e.loopTurn w t stage).queue = e.queue ∧
      ((∀ s, stage ≠ .underway s) → (t,.stopped) ∈ (e.loopTurn w t stage).ended) := by
  cases stage with
  | idle =>
    simp only [loopTurn, seek_stopped hs]
    exact ⟨e.endLoop_queue t, fun _ => e.endLoop_ended t⟩
  | underway s => exact ⟨rfl, fun hn => absurd rfl (hn s)⟩
  | judged s verdict =>
    have hs' := (keeps_conclude w e s verdict).stopped.trans hs
    simp only [loopTurn, seek_stopped hs']
    exact ⟨(endLoop_queue _ t).trans (conclude_queue w e s verdict), fun _ => endLoop_ended _ t⟩

theorem Comes.stays_loop {e e' : Engine P} {m : Move} {u : Ticket} {a : Activity P}
    (h : Comes w e m e' u a) (hu : u < e.tickets)
    (hl : ∀ b, e.activity? u = some b → ∃ stage, b = .loop stage) : ∃ stage, a = .loop stage := by
  cases h with
  | stays h => exact hl _ h
  | starts _ _ _ => exact absurd hu (Nat.lt_irrefl _)
  | arises ht h =>
    cases h with
    | kept h => exact hl _ h
    | parked h => exact ⟨_,rfl⟩
    | taken h => exact ⟨_,rfl⟩
    | opened h =>
      obtain ⟨_,hb⟩ := hl _ h
      simp at hb
    | begun => exact absurd hu (Nat.lt_irrefl _)
    | asked h =>
      obtain ⟨_,hb⟩ := hl _ h
      simp at hb
    | judgedLoop _ ho => exact ⟨_,rfl⟩
    | judgedProcess _ ho =>
      obtain ⟨_,hb⟩ := hl _ ho
      simp at hb
    | watching h ha =>
      obtain ⟨_,rfl⟩ := hl _ h
      simp [Activity.isCaller] at ha
    | closing h =>
      obtain ⟨_,hb⟩ := hl _ h
      simp at hb

end Engine

namespace Crew

open Engine

inductive Move where
  | engine (m : Engine.Move)
  | tell (t : Ticket)
  deriving DecidableEq, Repr

section Moves

variable (w : Worker P)

/-- Each loop looks at a token of its own: the turn of one who was told finds it cancelled. -/
def act (c : Crew P) (m : Engine.Move) : Engine P :=
  if (c.engine.turning? m).any (· ∈ c.told) then
    { ({ c.engine with stopped := true } : Engine P).move w m with stopped := c.engine.stopped }
  else c.engine.move w m

def tell (c : Crew P) (t : Ticket) : Crew P :=
  match c.engine.activity? t with
  | some (.loop .idle) => { engine := c.engine.wake t, told := t :: c.told }
  | some (.loop _) => { c with told := t :: c.told }
  | _ => c

def move (c : Crew P) : Move → Crew P
  | .engine m => { c with engine := c.act w m }
  | .tell t => c.tell t

def after (c : Crew P) (moves : List Move) : Crew P :=
  moves.foldl (move w) c

def record {α : Type} (f : Crew P → Move → List α) (c : Crew P) : List Move → List α
  | [] => []
  | m :: moves => f c m ++ record f (c.move w m) moves

def turning? (c : Crew P) : Move → Option Ticket
  | .engine m => c.engine.turning? m
  | .tell _ => none

def consumer? (c : Crew P) (m : Move) : Option Ticket :=
  (c.turning? m).filter fun t => (c.engine.activity? t).any isConsumer

def received (c : Crew P) (m : Move) : List (Ticket × DocumentId) :=
  match c.consumer? m with
  | none => []
  | some t => (c.engine.queue.gone (c.move w m).engine.queue).map (t,·)

def passages (c : Crew P) (m : Move) : List Queue.Passage :=
  let q := c.engine.queue
  let q' := (c.move w m).engine.queue
  (q.gone q').map (match c.consumer? m with | none => .removed | some _ => .handed) ++
    (q.come q').map .added

end Moves

def begun (c : Crew P) : Move → List Ticket
  | .engine (.start .take) => [c.engine.tickets]
  | _ => []

section Runs

variable (w : Worker P) (c : Crew P)

theorem after_concat (moves : List Move) (m : Move) : c.after w (moves ++ [m]) = (c.after w moves).move w m := by
  simp only [after, List.foldl_append, List.foldl_cons, List.foldl_nil]

theorem record_concat {α : Type} (f : Crew P → Move → List α) (moves : List Move) (m : Move) :
    c.record w f (moves ++ [m]) = c.record w f moves ++ f (c.after w moves) m := by
  induction moves generalizing c with
  | nil => simp [record, after]
  | cons n moves ih =>
    simp only [List.cons_append, record, ih, List.append_assoc]
    rfl

theorem act_cases (m : Engine.Move) :
    (c.act w m = c.engine.move w m ∧ ∀ t, c.engine.turning? m = some t → t ∉ c.told) ∨
    ∃ place t, m = .turn place ∧ c.engine.ready[place]? = some t ∧ t ∈ c.told ∧
      c.act w m = { ({ c.engine with stopped := true, ready := c.engine.ready.eraseIdx place } : Engine P).turn w t
        with stopped := c.engine.stopped } := by
  unfold act
  split
  · rename_i h
    cases m with
    | turn place =>
      cases ht : c.engine.ready[place]? with
      | none => simp [Engine.turning?, ht] at h
      | some t =>
        refine Or.inr ⟨place, t, rfl, ht, ?_, ?_⟩
        · simpa [Engine.turning?, ht] using h
        · simp only [Engine.move, ht]
    | _ => simp [Engine.turning?] at h
  · rename_i h
    refine Or.inl ⟨rfl, fun t ht hm => h ?_⟩
    simp [ht, hm]

variable {w c}

theorem act_moved (ho : c.engine.Orderly) (m : Engine.Move) : Moved w c.engine m (c.act w m) := by
  rcases c.act_cases w m with ⟨he,_⟩ | ⟨place,t,rfl,ht,_,he⟩ <;> rw [he]
  · exact moved w ho m
  · have h := turned w { c.engine with stopped := true, ready := c.engine.ready.eraseIdx place } ho.valid t
    refine Turned.moved ho ht (Turned.restopped (e := { c.engine with ready := c.engine.ready.eraseIdx place }) h)
      fun hn => ?_
    rw [turn_of_none w
      (e := { c.engine with stopped := true, ready := c.engine.ready.eraseIdx place }) hn]

theorem act_awake (h : c.engine.Awake none) (m : Engine.Move) : (c.act w m).Awake none := by
  rcases c.act_cases w m with ⟨he,_⟩ | ⟨place,t,rfl,ht,_,he⟩ <;> rw [he]
  · exact h.move w m
  · have hs : ({ c.engine with stopped := true } : Engine P).Awake none :=
      h.calm (fun _ => rfl) rfl rfl fun _ hu => hu
    exact Awake.calm ((hs.turning ht).turn w) (fun _ => rfl) rfl rfl fun _ hu => hu

theorem tell_cases (t : Ticket) : c.tell t = c ∨ ∃ stage engine, c.engine.activity? t = some (.loop stage) ∧
    (engine = c.engine ∨ engine = c.engine.wake t) ∧ c.tell t = { engine, told := t :: c.told } := by
  unfold tell
  split
  · exact Or.inr ⟨_, _, ‹_›, Or.inr rfl, rfl⟩
  · exact Or.inr ⟨_, _, ‹_›, Or.inl rfl, rfl⟩
  · exact Or.inl rfl

theorem tell_engine (t : Ticket) : c.engine.Keeps (c.tell t).engine ∧
    (c.tell t).engine.queue = c.engine.queue ∧ (c.tell t).engine.bell = c.engine.bell ∧
    (c.tell t).engine.store = c.engine.store := by
  rcases c.tell_cases t with he | ⟨_,_,_,rfl | rfl,he⟩ <;> rw [he]
  · exact ⟨.refl _, rfl, rfl, rfl⟩
  · exact ⟨.refl _, rfl, rfl, rfl⟩
  · rw [wake_eq]
    exact ⟨⟨rfl,rfl,rfl,rfl,rfl,rfl,rfl,rfl,rfl,fun _ h => mem_woken.mpr (Or.inl h)⟩, rfl, rfl, rfl⟩

theorem consumer?_some {m : Move} {t : Ticket} (h : c.consumer? m = some t) :
    c.turning? m = some t ∧ ∃ a, c.engine.activity? t = some a ∧ isConsumer a = true := by
  obtain ⟨ht,ha⟩ := Option.filter_eq_some_iff.mp h
  cases hu : c.engine.activity? t with
  | none => simp [hu] at ha
  | some a => exact ⟨ht, a, rfl, by simpa [hu] using ha⟩

theorem move_hands (hs : c.engine.queue.Sound) {m : Move} {t : Ticket} (hc : c.consumer? m = some t) :
    ∃ taken, Queue.Hands c.engine.queue (c.move w m).engine.queue taken := by
  obtain ⟨ht,a,hu,ha⟩ := consumer?_some hc
  cases m with
  | tell u => simp [turning?] at ht
  | engine m =>
    change ∃ taken, Queue.Hands _ (c.act w m).queue taken
    rcases c.act_cases w m with ⟨he,_⟩ | ⟨place,u,rfl,hplace,_,he⟩ <;> rw [he]
    · obtain ⟨ready,hm⟩ := move_turning w ht
      rw [hm]
      exact consumer_hands w (e := { c.engine with ready }) hu ha hs
    · cases hplace.symm.trans ht
      exact consumer_hands w
        (e := { c.engine with stopped := true, ready := c.engine.ready.eraseIdx place }) hu ha hs

theorem move_shifts {m : Move} (hc : c.consumer? m = none) :
    Queue.Shift c.engine.queue (c.move w m).engine.queue := by
  have hn : ∀ t a, c.turning? m = some t → c.engine.activity? t = some a → isConsumer a = false := by
    intro t a ht hu
    have := Option.filter_eq_none_iff.mp hc t ht
    simpa [hu] using this
  cases m with
  | tell u =>
    have hq : (c.tell u).engine.queue = c.engine.queue := (c.tell_engine u).2.1
    exact hq.symm ▸ .refl _
  | engine m =>
    change Queue.Shift _ (c.act w m).queue
    rcases c.act_cases w m with ⟨he,_⟩ | ⟨place,u,rfl,hplace,_,he⟩ <;> rw [he]
    · exact Engine.move_shifts w hn
    · exact turn_shifts w
        (e := { c.engine with stopped := true, ready := c.engine.ready.eraseIdx place }) fun a ha => hn u a hplace ha

theorem move_orderly (ho : c.engine.Orderly) (m : Move) : (c.move w m).engine.Orderly := by
  cases m with
  | engine m => exact (act_moved ho m).orderly ho
  | tell t =>
    obtain ⟨hk,_,_,hs⟩ := c.tell_engine t
    exact hk.orderly ho hs

theorem move_awake (h : c.engine.Awake none) (m : Move) : (c.move w m).engine.Awake none := by
  cases m with
  | engine m => exact act_awake h m
  | tell t =>
    obtain ⟨hk,hq,hb,_⟩ := c.tell_engine t
    exact h.keeps hk hq hb

theorem move_tickets (ho : c.engine.Orderly) (m : Move) : c.engine.tickets ≤ (c.move w m).engine.tickets := by
  cases m with
  | engine m => exact (act_moved ho m).tickets
  | tell t => exact Nat.le_of_eq (c.tell_engine t).1.tickets.symm

theorem move_ended (ho : c.engine.Orderly) (m : Move) {t : Ticket} {x : Ending P} (hx : (t,x) ∈ c.engine.ended) :
    (t,x) ∈ (c.move w m).engine.ended := by
  cases m with
  | engine m => exact ((act_moved ho m).still_ended ho hx).2
  | tell u => exact (c.tell_engine u).1.ended ▸ hx

theorem move_shutDown (h : c.engine.Awake none) (m : Move) (hs : c.engine.queue.shutDown = true) :
    (c.move w m).engine.queue.shutDown = true := by
  cases hc : c.consumer? m with
  | none => exact (move_shifts hc).shutDown hs
  | some t =>
    obtain ⟨taken,hh⟩ := move_hands (w := w) h.queue hc
    exact hh.shutDown.trans hs

structure Dismissed (c : Crew P) (t : Ticket) : Prop where
  known : t < c.engine.tickets
  loop : ∀ a, c.engine.activity? t = some a → ∃ stage, a = .loop stage
  sentAway : c.engine.stopped = true ∨ t ∈ c.told

theorem Dismissed.turn {t : Ticket} (h : c.Dismissed t) {m : Engine.Move} (ht : c.engine.turning? m = some t) :
    (c.act w m).queue = c.engine.queue ∧ ∀ stage, c.engine.activity? t = some (.loop stage) →
      (∀ s, stage ≠ .underway s) → (t,.stopped) ∈ (c.act w m).ended := by
  have hturn : ∀ e : Engine P, e.stopped = true → (∀ u, e.activity? u = c.engine.activity? u) →
      (e.turn w t).queue = e.queue ∧ ∀ stage, c.engine.activity? t = some (.loop stage) →
        (∀ s, stage ≠ .underway s) → (t,.stopped) ∈ (e.turn w t).ended := by
    intro e hs ha
    cases hu : c.engine.activity? t with
    | none => exact ⟨by rw [turn_of_none w ((ha t).trans hu)], by simp⟩
    | some a =>
      obtain ⟨stage,rfl⟩ := h.loop a hu
      have hl := loopTurn_stopped w hs t stage
      simp only [Engine.turn, ha t, hu]
      refine ⟨hl.1, ?_⟩
      rintro _ ⟨rfl⟩ hn
      exact hl.2 hn
  rcases c.act_cases w m with ⟨he,hn⟩ | ⟨place,u,rfl,hplace,_,he⟩
  · have hs : c.engine.stopped = true := h.sentAway.resolve_right (hn t ht)
    obtain ⟨ready,hm⟩ := move_turning w ht
    rw [he, hm]
    exact hturn { c.engine with ready } hs fun _ => rfl
  · cases hplace.symm.trans ht
    rw [he]
    exact hturn { c.engine with stopped := true, ready := c.engine.ready.eraseIdx place } rfl fun _ => rfl

theorem Dismissed.move (ho : c.engine.Orderly) {t : Ticket} (h : c.Dismissed t) (m : Move) :
    (c.move w m).Dismissed t := by
  refine ⟨Nat.lt_of_lt_of_le h.known (move_tickets ho m), fun a ha => ?_, ?_⟩
  · cases m with
    | engine m => exact ((act_moved ho m).comes t a ha).stays_loop h.known h.loop
    | tell u => exact h.loop a ((c.tell_engine u).1.activity? t ▸ ha)
  · cases m with
    | engine m => exact h.sentAway.imp_left (act_moved ho m).stopped
    | tell u =>
      have hs := (c.tell_engine u).1.stopped
      refine h.sentAway.imp (fun ho => hs.trans ho) fun ht => ?_
      change t ∈ (c.tell u).told
      rcases c.tell_cases u with he | ⟨_,_,_,_,he⟩ <;> rw [he]
      · exact ht
      · exact List.mem_cons_of_mem _ ht

inductive Fared (c : Crew P) (rs : List (Ticket × DocumentId)) (t : Ticket) : Prop where
  | waits (ht : c.engine.activity? t = some .take) (hr : rs.filter (·.1 = t) = [])
  | served (id : DocumentId) (hx : (t,.taken id) ∈ c.engine.ended) (hr : rs.filter (·.1 = t) = [(t,id)])
  | refused (hx : (t,.refused .shutDown) ∈ c.engine.ended) (hd : c.engine.queue.shutDown = true)
    (hr : rs.filter (·.1 = t) = [])

theorem received_of_same {m : Move} (hq : (c.move w m).engine.queue = c.engine.queue) : c.received w m = [] := by
  unfold received
  split
  · rfl
  · rw [hq]
    simp [Queue.gone]

theorem received_other {m : Move} {t : Ticket} (ht : c.consumer? m ≠ some t) :
    (c.received w m).filter (·.1 = t) = [] := by
  unfold received
  split
  · rfl
  · rename_i u hu
    refine List.filter_eq_nil_iff.mpr fun r hr => ?_
    obtain ⟨id,_,rfl⟩ := List.mem_map.mp hr
    simp only [decide_eq_true_eq]
    rintro rfl
    exact ht hu

theorem Fared.turn {rs : List (Ticket × DocumentId)} {t : Ticket} (h : c.engine.Awake none)
    (ht : c.engine.activity? t = some .take) (hr : rs.filter (·.1 = t) = []) (htold : t ∉ c.told)
    {m : Engine.Move} (hm : c.engine.turning? m = some t) :
    Fared (c.move w (.engine m)) (rs ++ c.received w (.engine m)) t := by
  have hc : c.consumer? (.engine m) = some t := Option.filter_eq_some_iff.mpr ⟨hm, by simp [ht, isConsumer]⟩
  have hact : ∃ ready, (c.move w (.engine m)).engine = ({ c.engine with ready } : Engine P).takeTurn t := by
    change ∃ ready, c.act w m = _
    rcases c.act_cases w m with ⟨he,_⟩ | ⟨place,u,rfl,hplace,hu,_⟩
    · obtain ⟨ready,hmove⟩ := move_turning w hm
      have hturn : ({ c.engine with ready } : Engine P).activity? t = some .take := ht
      refine ⟨ready, ?_⟩
      rw [he, hmove, Engine.turn, hturn]
    · cases hplace.symm.trans hm
      exact absurd hu htold
  have hnone : (c.move w (.engine m)).engine.queue = c.engine.queue →
      (rs ++ c.received w (.engine m)).filter (·.1 = t) = [] := by
    intro hq
    rw [received_of_same hq, List.append_nil, hr]
  obtain ⟨ready,he⟩ := hact
  rcases takeTurn_cases (e := { c.engine with ready }) t h.queue with ⟨id,hh,hx⟩ | ⟨hq,hd,hx⟩ | ⟨hq,hu⟩
  · rw [← he] at hh hx
    refine .served id hx ?_
    have hg : c.engine.queue.gone (c.move w (.engine m)).engine.queue = [id] := (hh.gone h.queue.nodup).1
    simp [received, hc, hg, hr]
  · rw [← he] at hq hx
    refine .refused hx ?_ (hnone hq)
    rw [hq]
    exact hd
  · rw [← he] at hq hu
    exact .waits (hu.trans ht) (hnone hq)

theorem Fared.move {rs : List (Ticket × DocumentId)} {t : Ticket} (ho : c.engine.Orderly)
    (h : c.engine.Awake none) (htold : c.engine.activity? t = some .take → t ∉ c.told) (hf : Fared c rs t)
    (m : Move) : Fared (c.move w m) (rs ++ c.received w m) t := by
  have hgone : ∀ x, (t,x) ∈ c.engine.ended → c.consumer? m ≠ some t := by
    intro x hx hc
    obtain ⟨_,a,ha,_⟩ := consumer?_some hc
    rw [(ho.ended t x hx).2] at ha
    simp at ha
  cases hf with
  | waits ht hr =>
    by_cases hm : c.turning? m = some t
    · cases m with
      | engine m => exact Fared.turn h ht hr (htold ht) hm
      | tell u => simp [turning?] at hm
    · have hne : c.consumer? m ≠ some t := fun hc => hm (consumer?_some hc).1
      refine .waits ?_ (by rw [List.filter_append, hr, received_other hne]; rfl)
      cases m with
      | engine m => exact (act_moved ho m).still_waits ht rfl hm
      | tell u => exact ((c.tell_engine u).1.activity? t).trans ht
  | served id hx hr =>
    exact .served id (move_ended ho m hx) (by rw [List.filter_append, hr, received_other (hgone _ hx)]; rfl)
  | refused hx hd hr =>
    exact .refused (move_ended ho m hx) (move_shutDown h m hd)
      (by rw [List.filter_append, hr, received_other (hgone _ hx)]; rfl)

structure Kept (c : Crew P) (ps : List Queue.Passage) (rs : List (Ticket × DocumentId)) (ts : List Ticket) :
    Prop where
  orderly : c.engine.Orderly
  awake : c.engine.Awake none
  told : ∀ t ∈ c.told, t < c.engine.tickets ∧ ∀ a, c.engine.activity? t = some a → ∃ stage, a = .loop stage
  served : Queue.Served ps c.engine.queue.order
  handed : Queue.handings ps = rs.map (·.2)
  known : ∀ r ∈ rs, r.1 < c.engine.tickets
  fared : ∀ t ∈ ts, Fared c rs t

theorem served_move (h : c.engine.Awake none) {ps : List Queue.Passage}
    (hs : Queue.Served ps c.engine.queue.order) (m : Move) :
    Queue.Served (ps ++ c.passages w m) (c.move w m).engine.queue.order := by
  unfold passages
  cases hc : c.consumer? m with
  | none =>
    have hshift := move_shifts (w := w) hc
    rw [hshift.order h.queue, ← List.append_assoc]
    exact (hs.loses _).joins _
  | some t =>
    obtain ⟨taken,hh⟩ := move_hands (w := w) h.queue hc
    obtain ⟨hg,hcome⟩ := hh.gone h.queue.nodup
    have horder := hh.order
    rw [horder] at hs
    dsimp only
    rw [hg, hcome, List.map_nil, List.append_nil]
    exact hs.serves (horder ▸ h.queue.nodup)

theorem handings_passages (m : Move) : Queue.handings (c.passages w m) = (c.received w m).map (·.2) := by
  have hcome : ∀ ids : List DocumentId, Queue.handings (ids.map .added) = [] := by
    intro ids
    simp [Queue.handings, List.filterMap_map]
  unfold passages received
  dsimp only
  rw [Queue.handings, List.filterMap_append]
  change _ ++ Queue.handings _ = _
  rw [hcome, List.append_nil]
  cases c.consumer? m <;> simp [List.filterMap_map, Function.comp_def]

theorem told_move (ho : c.engine.Orderly)
    (h : ∀ t ∈ c.told, t < c.engine.tickets ∧ ∀ a, c.engine.activity? t = some a → ∃ stage, a = .loop stage)
    (m : Move) : ∀ t ∈ (c.move w m).told, t < (c.move w m).engine.tickets ∧
      ∀ a, (c.move w m).engine.activity? t = some a → ∃ stage, a = .loop stage := by
  intro t ht
  have hstays : t ∈ c.told → t < (c.move w m).engine.tickets ∧
      ∀ a, (c.move w m).engine.activity? t = some a → ∃ stage, a = .loop stage := by
    intro ht
    obtain ⟨hlt,hl⟩ := h t ht
    have hd : (c.move w m).Dismissed t := Dismissed.move ho ⟨hlt, hl, Or.inr ht⟩ m
    exact ⟨hd.known, hd.loop⟩
  cases m with
  | engine m => exact hstays ht
  | tell u =>
    change t ∈ (c.tell u).told at ht
    rcases c.tell_cases u with he | ⟨stage,engine,hu,_,he⟩
    · exact hstays (he ▸ ht)
    · rw [he] at ht
      rcases List.mem_cons.mp ht with rfl | ht
      · refine ⟨Nat.lt_of_lt_of_le (ho.numbered t _ hu) (move_tickets ho _), fun a ha => ?_⟩
        cases hu.symm.trans ((c.tell_engine t).1.activity? t ▸ ha)
        exact ⟨stage,rfl⟩
      · exact hstays ht

theorem Fared.begin (ho : c.engine.Orderly) {rs : List (Ticket × DocumentId)}
    (hr : ∀ r ∈ rs, r.1 < c.engine.tickets) {m : Move} {t : Ticket} (ht : t ∈ c.begun m) :
    Fared (c.move w m) (rs ++ c.received w m) t := by
  unfold begun at ht
  split at ht
  · cases List.mem_singleton.mp ht
    have hfree : c.engine.activity? c.engine.tickets = none := by
      cases ha : c.engine.activity? c.engine.tickets with
      | none => rfl
      | some a => exact absurd (ho.numbered _ a ha) (Nat.lt_irrefl _)
    refine .waits ?_ ?_
    · change (c.engine.start .take).activity? c.engine.tickets = _
      rw [activity?_start, hfree]
      simp
    · rw [received_of_same rfl, List.append_nil]
      refine List.filter_eq_nil_iff.mpr fun r hm => ?_
      simp [Nat.ne_of_lt (hr r hm)]
  · simp at ht

theorem Kept.move {ps : List Queue.Passage} {rs : List (Ticket × DocumentId)} {ts : List Ticket}
    (h : Kept c ps rs ts) (m : Move) :
    Kept (c.move w m) (ps ++ c.passages w m) (rs ++ c.received w m) (ts ++ c.begun m) where
  orderly := move_orderly h.orderly m
  awake := move_awake h.awake m
  told := told_move h.orderly h.told m
  served := served_move h.awake h.served m
  handed := by
    rw [List.map_append, ← handings_passages, ← h.handed, Queue.handings, List.filterMap_append]
    rfl
  known r hr := by
    rcases List.mem_append.mp hr with hr | hr
    · exact Nat.lt_of_lt_of_le (h.known r hr) (move_tickets h.orderly m)
    · unfold received at hr
      cases hc : c.consumer? m with
      | none => simp [hc] at hr
      | some t =>
        rw [hc] at hr
        obtain ⟨id,_,rfl⟩ := List.mem_map.mp hr
        obtain ⟨_,a,ha,_⟩ := consumer?_some hc
        exact Nat.lt_of_lt_of_le (h.orderly.numbered t a ha) (move_tickets h.orderly m)
  fared t ht := by
    rcases List.mem_append.mp ht with ht | ht
    · refine (h.fared t ht).move h.orderly h.awake (fun hu hm => ?_) m
      obtain ⟨stage,hl⟩ := (h.told t hm).2 _ hu
      simp at hl
    · exact Fared.begin h.orderly h.known ht

end Runs

section Outset

variable (w : Worker P) (gate : Option Gate) (moves : List Move)

theorem kept_after : Kept (after w { engine := { gate } } moves) (record w (passages w) { engine := { gate } } moves)
    (record w (received w) { engine := { gate } } moves) (record w begun { engine := { gate } } moves) := by
  induction moves using List.reverseRecOn with
  | nil =>
    refine ⟨orderly_new gate, awake_new gate, ?_, rfl, rfl, ?_, ?_⟩ <;>
      exact fun _ h => absurd h List.not_mem_nil
  | append_singleton moves m ih =>
    rw [after_concat, record_concat, record_concat, record_concat]
    exact ih.move m

-- The loop that was told to stop passes on the ring that was meant for it.
example :
    let w : Worker Nat := ⟨fun _ _ _ => .panicked, false⟩
    let moves : List Move := [.engine (.start .loop), .engine (.start .take), .engine (.turn 0), .engine (.turn 0),
      .engine (.enqueue ⟨"file:///a"⟩), .tell 0, .engine (.turn 0), .engine (.turn 0)]
    (after w {} moves).engine.ended = [(0,.stopped),(1,.taken ⟨"file:///a"⟩)] ∧
    record w (received w) {} moves = [(1,⟨"file:///a"⟩)] := by
  decide +kernel

end Outset

end Crew

end LiveAnalysis
