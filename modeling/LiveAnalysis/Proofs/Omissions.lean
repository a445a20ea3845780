import LiveAnalysis.Proofs.Parallel

namespace LiveAnalysis

variable {P : Type}

structure Omission where
  calls : List Ticket
  tokens : List Token := []

namespace Omission

variable (o : Omission)

/-! Tickets are given out in their order: a call that stays has the number of those that stay before it. -/

def rank (t : Ticket) : Ticket :=
  (List.range t).countP (· ∉ o.calls)

def ticket? (t : Ticket) : Option Ticket :=
  if t ∈ o.calls then none else some (o.rank t)

def tickets (ts : List Ticket) : List Ticket :=
  ts.filterMap o.ticket?

def relabel? {α : Type} (p : Ticket × α) : Option (Ticket × α) :=
  (o.ticket? p.1).map (·, p.2)

variable {o} {t u : Ticket}

theorem rank_succ (t : Ticket) : o.rank (t + 1) = if t ∈ o.calls then o.rank t else o.rank t + 1 := by
  by_cases ht : t ∈ o.calls <;> simp [rank, List.range_succ, ht]

theorem rank_mono (h : t ≤ u) : o.rank t ≤ o.rank u :=
  (List.range_sublist.mpr h).countP_le

theorem rank_lt (ht : t ∉ o.calls) (h : t < u) : o.rank t < o.rank u := by
  have hs : o.rank t < o.rank (t + 1) := by
    rw [rank_succ, if_neg ht]
    exact Nat.lt_succ_self _
  exact Nat.lt_of_lt_of_le hs (rank_mono h)

theorem rank_inj (ht : t ∉ o.calls) (hu : u ∉ o.calls) (h : o.rank t = o.rank u) : t = u := by
  rcases Nat.lt_trichotomy t u with hlt | heq | hlt
  · exact absurd h (Nat.ne_of_lt (rank_lt ht hlt))
  · exact heq
  · exact absurd h.symm (Nat.ne_of_lt (rank_lt hu hlt))

theorem rank_zero : o.rank 0 = 0 := rfl

theorem ticket?_gone (ht : t ∈ o.calls) : o.ticket? t = none :=
  if_pos ht

theorem ticket?_kept (ht : t ∉ o.calls) : o.ticket? t = some (o.rank t) :=
  if_neg ht

theorem tickets_concat (ht : t ∉ o.calls) (ts : List Ticket) :
    o.tickets (ts ++ [t]) = o.tickets ts ++ [o.rank t] := by
  simp [tickets, ticket?_kept ht]

theorem mem_tickets (ht : t ∉ o.calls) {ts : List Ticket} : o.rank t ∈ o.tickets ts ↔ t ∈ ts := by
  constructor
  · intro h
    obtain ⟨u,hu,hr⟩ := List.mem_filterMap.mp h
    by_cases hc : u ∈ o.calls
    · simp [ticket?_gone hc] at hr
    · rw [ticket?_kept hc] at hr
      exact rank_inj hc ht (Option.some.inj hr) ▸ hu
  · exact fun h => List.mem_filterMap.mpr ⟨t, h, ticket?_kept ht⟩

theorem tickets_kept {ts : List Ticket} (h : ∀ t ∈ ts, t ∉ o.calls) : o.tickets ts = ts.map o.rank :=
  List.filterMap_eq_map_iff_forall_eq_some.mpr fun t ht => ticket?_kept (h t ht)

theorem tickets_woken (ready ts : List Ticket) :
    o.tickets (Engine.woken ready ts) = Engine.woken (o.tickets ready) (o.tickets ts) := by
  induction ts generalizing ready with
  | nil => rfl
  | cons u ts ih =>
    have hw : Engine.woken ready (u :: ts) =
        Engine.woken (if u ∈ ready then ready else ready ++ [u]) ts := rfl
    rw [hw, ih]
    by_cases hc : u ∈ o.calls
    · have hn : o.tickets (if u ∈ ready then ready else ready ++ [u]) = o.tickets ready := by
        split
        · rfl
        · simp [tickets, ticket?_gone hc]
      rw [hn, tickets, tickets, tickets, List.filterMap_cons_none (ticket?_gone hc)]
    · have hn : o.tickets (if u ∈ ready then ready else ready ++ [u]) =
          if o.rank u ∈ o.tickets ready then o.tickets ready else o.tickets ready ++ [o.rank u] := by
        simp only [mem_tickets hc]
        split
        · rfl
        · simp [tickets, ticket?_kept hc]
      rw [hn]
      simp only [tickets, List.filterMap_cons_some (ticket?_kept hc)]
      rfl

theorem eq_append_of_getElem? {ready : List Ticket} {place : Nat} (ht : ready[place]? = some t) :
    ∃ before after, ready = before ++ t :: after ∧ ready.take place = before ∧
      ready.eraseIdx place = before ++ after := by
  obtain ⟨hlt,rfl⟩ := List.getElem?_eq_some_iff.mp ht
  refine ⟨ready.take place, ready.drop (place + 1), ?_, rfl, List.eraseIdx_eq_take_drop_succ _ _⟩
  rw [List.getElem_cons_drop, List.take_append_drop]

theorem tickets_eraseIdx_gone {ready : List Ticket} {place : Nat} (ht : ready[place]? = some t)
    (hk : t ∈ o.calls) : o.tickets (ready.eraseIdx place) = o.tickets ready := by
  obtain ⟨before,after,hr,_,he⟩ := eq_append_of_getElem? ht
  rw [he, hr, tickets, tickets, List.filterMap_append, List.filterMap_append,
    List.filterMap_cons_none (ticket?_gone hk)]

theorem tickets_eraseIdx {ready : List Ticket} {place : Nat} (ht : ready[place]? = some t)
    (hk : t ∉ o.calls) : (o.tickets ready)[(o.tickets (ready.take place)).length]? = some (o.rank t) ∧
      o.tickets (ready.eraseIdx place) =
        (o.tickets ready).eraseIdx (o.tickets (ready.take place)).length := by
  obtain ⟨before,after,hr,hb,he⟩ := eq_append_of_getElem? ht
  have hs : o.tickets ready = o.tickets before ++ o.rank t :: o.tickets after := by
    rw [hr, tickets, List.filterMap_append, List.filterMap_cons_some (ticket?_kept hk), tickets, tickets]
  rw [he, hb, hs]
  constructor
  · simp
  · rw [List.eraseIdx_append_of_length_le (Nat.le_refl _), tickets, List.filterMap_append]
    simp [tickets]

section Entries

variable {α : Type}

theorem relabel?_gone (ht : t ∈ o.calls) (a : α) : o.relabel? (t,a) = none := by
  simp [relabel?, ticket?_gone ht]

theorem relabel?_kept (ht : t ∉ o.calls) (a : α) : o.relabel? (t,a) = some (o.rank t, a) := by
  simp [relabel?, ticket?_kept ht]

end Entries

variable (o)

/-- The engine of a run without what is left out. An analysis keeps its owner, who has the ticket 0. -/
def engine (e : Engine P) : Engine P :=
  { e with
    gate := e.gate.map fun g => { g with waiting := o.tickets g.waiting }
    activities := e.activities.filterMap o.relabel?
    tickets := o.rank e.tickets
    ready := o.tickets e.ready
    cancelled := e.cancelled.filter (· ∉ o.tokens)
    ended := e.ended.filterMap o.relabel? }

variable {o} {e : Engine P}

@[simp] theorem engine_store : (o.engine e).store = e.store := rfl

@[simp] theorem engine_queue : (o.engine e).queue = e.queue := rfl

@[simp] theorem engine_stopped : (o.engine e).stopped = e.stopped := rfl

theorem engine_activity? (ht : t ∉ o.calls) : (o.engine e).activity? (o.rank t) = e.activity? t := by
  have hp : ∀ p : Ticket × Activity P, (o.relabel? p).any (fun q => q.1 = o.rank t) = decide (p.1 = t) := by
    rintro ⟨u,a⟩
    by_cases hu : u ∈ o.calls
    · have hne : u ≠ t := fun h => ht (h ▸ hu)
      simp [relabel?_gone hu, hne]
    · by_cases hut : u = t
      · simp [hut, relabel?_kept ht]
      · have hne : o.rank u ≠ o.rank t := fun h => hut (rank_inj hu ht h)
        simp [relabel?_kept hu, hut, hne]
  simp only [Engine.activity?, engine, List.find?_filterMap, hp]
  cases hf : e.activities.find? (fun p => decide (p.1 = t)) with
  | none => rfl
  | some p =>
    obtain ⟨u,a⟩ := p
    have hu : u = t := by simpa using List.find?_some hf
    simp [hu, relabel?_kept ht]

theorem engine_wakeAll (e : Engine P) (ts : List Ticket) :
    o.engine (e.wakeAll ts) = (o.engine e).wakeAll (o.tickets ts) := by
  rw [Engine.wakeAll_eq, Engine.wakeAll_eq]
  simp only [engine, tickets_woken]

theorem engine_wakeSome (e : Engine P) (t : Option Ticket) :
    o.engine (e.wakeSome t) = (o.engine e).wakeSome (t.bind o.ticket?) := by
  have ht : (t.bind o.ticket?).toList = o.tickets t.toList := by
    cases t with
    | none => rfl
    | some t => by_cases ht : t ∈ o.calls <;> simp [tickets, ticket?, ht]
  rw [Engine.wakeSome_eq, Engine.wakeSome_eq, ht]
  simp only [engine, tickets_woken]

theorem engine_wake (ht : t ∉ o.calls) (e : Engine P) : o.engine (e.wake t) = (o.engine e).wake (o.rank t) := by
  have h := engine_wakeSome (o := o) e (some t)
  rwa [Option.bind_some, ticket?_kept ht] at h

theorem engine_set (ht : t ∉ o.calls) (e : Engine P) (a : Activity P) :
    o.engine (e.set t a) = (o.engine e).set (o.rank t) a := by
  have hp : ∀ p : Ticket × Activity P, o.relabel? (if p.1 = t then (t,a) else p) =
      (o.relabel? p).map fun q => if q.1 = o.rank t then (o.rank t, a) else q := by
    rintro ⟨u,b⟩
    by_cases hut : u = t
    · simp [hut, relabel?_kept ht]
    · by_cases hu : u ∈ o.calls
      · simp [hut, relabel?_gone hu]
      · have hne : o.rank u ≠ o.rank t := fun h => hut (rank_inj hu ht h)
        simp [hut, hne, relabel?_kept hu]
  simp only [engine, Engine.set, List.filterMap_map, List.map_filterMap, Function.comp_def, hp]

theorem engine_set_gone (ht : t ∈ o.calls) (e : Engine P) (a : Activity P) :
    o.engine (e.set t a) = o.engine e := by
  have hp : ∀ p : Ticket × Activity P, o.relabel? (if p.1 = t then (t,a) else p) = o.relabel? p := by
    rintro ⟨u,b⟩
    by_cases hut : u = t
    · simp [hut, relabel?_gone ht]
    · simp [hut]
  simp only [engine, Engine.set, List.filterMap_map, Function.comp_def, hp]

theorem engine_remove (ht : t ∉ o.calls) (e : Engine P) :
    o.engine (e.remove t) = (o.engine e).remove (o.rank t) := by
  have hp : ∀ p : Ticket × Activity P, (if p.1 ≠ t then o.relabel? p else none) =
      (o.relabel? p).filter fun q => q.1 ≠ o.rank t := by
    rintro ⟨u,b⟩
    by_cases hut : u = t
    · simp [hut, relabel?_kept ht, Option.filter]
    · by_cases hu : u ∈ o.calls
      · simp [hut, relabel?_gone hu]
      · have hne : o.rank u ≠ o.rank t := fun h => hut (rank_inj hu ht h)
        simp [hut, hne, relabel?_kept hu, Option.filter]
  simp only [engine, Engine.remove, List.filterMap_filter, List.filter_filterMap]
  congr 1
  refine List.filterMap_congr fun p _ => ?_
  simpa using hp p

theorem engine_remove_gone (ht : t ∈ o.calls) (e : Engine P) : o.engine (e.remove t) = o.engine e := by
  simp only [engine, Engine.remove, List.filterMap_filter]
  congr 1
  refine List.filterMap_congr fun p _ => ?_
  by_cases hpt : p.1 = t
  · simp [relabel?, hpt, ticket?_gone ht]
  · simp [hpt]

theorem engine_finish (ht : t ∉ o.calls) (e : Engine P) (x : Ending P) :
    o.engine (e.finish t x) = (o.engine e).finish (o.rank t) x := by
  have hr := congrArg Engine.activities (engine_remove ht e)
  simp only [engine] at hr
  simp only [engine, Engine.finish, hr, List.filterMap_append, List.filterMap_cons, List.filterMap_nil,
    relabel?_kept ht]
  rfl

theorem engine_finish_gone (ht : t ∈ o.calls) (e : Engine P) (x : Ending P) :
    o.engine (e.finish t x) = o.engine e := by
  have hr := congrArg Engine.activities (engine_remove_gone ht e)
  simp only [engine] at hr
  simp only [engine, Engine.finish, hr, List.filterMap_append, List.filterMap_cons, List.filterMap_nil,
    relabel?_gone ht, List.append_nil]
  rfl

theorem engine_start (ht : e.tickets ∉ o.calls) (a : Activity P) :
    o.engine (e.start a) = (o.engine e).start a := by
  simp only [engine, Engine.start, List.filterMap_append, List.filterMap_cons,
    List.filterMap_nil, relabel?_kept ht, tickets, ticket?_kept ht, rank_succ, if_neg ht]

theorem engine_start_gone (ht : e.tickets ∈ o.calls) (a : Activity P) :
    o.engine (e.start a) = o.engine e := by
  simp only [engine, Engine.start, List.filterMap_append, List.filterMap_cons,
    List.filterMap_nil, relabel?_gone ht, tickets, ticket?_gone ht, rank_succ, if_pos ht, List.append_nil]

theorem filterMap_engine {β : Type} {f : Ticket × Activity P → Option β} {g : β → Option β}
    (hg : ∀ t a, t ∈ o.calls → (f (t,a)).bind g = none)
    (hk : ∀ t a, t ∉ o.calls → (f (t,a)).bind g = f (o.rank t, a)) (e : Engine P) :
    (o.engine e).activities.filterMap f = (e.activities.filterMap f).filterMap g := by
  have hp : ∀ p, (o.relabel? p).bind f = (f p).bind g := by
    rintro ⟨t,a⟩
    by_cases ht : t ∈ o.calls
    · rw [relabel?_gone ht, hg t a ht, Option.bind_none]
    · rw [relabel?_kept ht, hk t a ht, Option.bind_some]
  simp only [engine, List.filterMap_filterMap, hp]

theorem tickets_selected {f : Ticket × Activity P → Option Ticket}
    (hf : ∀ a, (∀ t, f (t,a) = none) ∨ ∀ t, f (t,a) = some t) (e : Engine P) :
    (o.engine e).activities.filterMap f = o.tickets (e.activities.filterMap f) := by
  refine filterMap_engine (fun t a ht => ?_) (fun t a ht => ?_) e <;> rcases hf a with h | h
  · rw [h, Option.bind_none]
  · rw [h, Option.bind_some, ticket?_gone ht]
  · rw [h, h, Option.bind_none]
  · rw [h, h, Option.bind_some, ticket?_kept ht]

theorem engine_watches (e : Engine P) : (o.engine e).watches = o.tickets e.watches :=
  tickets_selected (fun a => by cases a <;> simp) e

theorem engine_idleLoops (e : Engine P) : (o.engine e).idleLoops = o.tickets e.idleLoops :=
  tickets_selected (fun a => by rcases a with _ | _ | (_ | _ | _) | _ | _ | _ | _ | _ <;> simp) e

theorem engine_closers (e : Engine P) : (o.engine e).closers = o.tickets e.closers :=
  tickets_selected (fun a => by rcases a with _ | _ | _ | _ | _ | _ | _ | (_ | _) <;> simp) e

theorem engine_holders (e : Engine P) (token : Token) :
    (o.engine e).holders token = o.tickets (e.holders token) := by
  refine tickets_selected (fun a => ?_) e
  cases a with
  | watch v => by_cases hv : v.token = some token <;> simp [hv]
  | _ => simp

theorem engine_watchers (hl : e.lines = []) (generation : Nat) :
    (o.engine e).watchers generation = o.tickets (e.watchers generation) := by
  have hl' : (o.engine e).lines = [] := hl
  rw [Engine.watchers, Engine.watchers, hl, hl', List.filter_nil, List.filterMap_nil, List.nil_append,
    List.nil_append]
  refine tickets_selected (fun a => ?_) e
  cases a with
  | watch v => by_cases hv : v.generation = generation <;> simp [hv]
  | _ => simp

theorem mergeSort_due (a : Nat × Ticket) (l : List (Nat × Ticket)) :
    ∃ before after, ((a :: l).mergeSort fun a b => a.1 ≤ b.1) = before ++ a :: after ∧
      (l.mergeSort fun a b => a.1 ≤ b.1) = before ++ after ∧
      (∀ b ∈ before, b.1 < a.1) ∧ ∀ b ∈ after, a.1 ≤ b.1 := by
  have htrans : ∀ a b c : Nat × Ticket, decide (a.1 ≤ b.1) = true → decide (b.1 ≤ c.1) = true →
      decide (a.1 ≤ c.1) = true := by
    simp only [decide_eq_true_eq]
    exact fun a b c => Nat.le_trans
  have htotal : ∀ a b : Nat × Ticket, (decide (a.1 ≤ b.1) || decide (b.1 ≤ a.1)) = true := by
    simp only [Bool.or_eq_true, decide_eq_true_eq]
    exact fun a b => Nat.le_total _ _
  obtain ⟨before,after,hs,hl,hb⟩ := List.mergeSort_cons htrans htotal a l
  have hsorted := List.pairwise_mergeSort htrans htotal (a :: l)
  rw [hs, List.pairwise_append, List.pairwise_cons] at hsorted
  refine ⟨before, after, hs, hl, fun b hx => ?_, fun b hx => by simpa using hsorted.2.1.1 b hx⟩
  simpa using hb b hx

theorem append_split {l₁ l₂ k₁ k₂ : List (Nat × Ticket)} {n : Nat} (h : l₁ ++ l₂ = k₁ ++ k₂)
    (hl₁ : ∀ b ∈ l₁, b.1 < n) (hl₂ : ∀ b ∈ l₂, n ≤ b.1) (hk₁ : ∀ b ∈ k₁, b.1 < n)
    (hk₂ : ∀ b ∈ k₂, n ≤ b.1) : l₁ = k₁ ∧ l₂ = k₂ := by
  have hf : ∀ l k : List (Nat × Ticket), (∀ b ∈ l, b.1 < n) → (∀ b ∈ k, n ≤ b.1) →
      (l ++ k).filter (·.1 < n) = l := by
    intro l k hl hk
    rw [List.filter_append, List.filter_eq_self.mpr (by simpa using hl),
      List.filter_eq_nil_iff.mpr (by simpa using hk), List.append_nil]
  have hl : l₁ = k₁ := by
    rw [← hf l₁ l₂ hl₁ hl₂, h, hf k₁ k₂ hk₁ hk₂]
  subst hl
  exact ⟨rfl, List.append_cancel_left h⟩

-- Sorting is stable, so that it does not matter whether some are left out before it or after it.
theorem filterMap_mergeSort {g : Nat × Ticket → Option (Nat × Ticket)} (hg : ∀ a b, g a = some b → b.1 = a.1)
    (l : List (Nat × Ticket)) :
    (l.mergeSort fun a b => a.1 ≤ b.1).filterMap g = (l.filterMap g).mergeSort fun a b => a.1 ≤ b.1 := by
  induction l with
  | nil => simp
  | cons a l ih =>
    obtain ⟨before,after,hs,hl,hbefore,hafter⟩ := mergeSort_due a l
    rw [hl, List.filterMap_append] at ih
    rw [hs, List.filterMap_append]
    cases ha : g a with
    | none => rw [List.filterMap_cons_none ha, List.filterMap_cons_none ha, ih]
    | some a' =>
      obtain ⟨before',after',hs',hl',hbefore',hafter'⟩ := mergeSort_due a' (l.filterMap g)
      rw [List.filterMap_cons_some ha, List.filterMap_cons_some ha, hs']
      have hkeys : ∀ n : List (Nat × Ticket), ∀ b' ∈ n.filterMap g, ∃ b ∈ n, b'.1 = b.1 := by
        intro n b' hb'
        obtain ⟨b,hb,hgb⟩ := List.mem_filterMap.mp hb'
        exact ⟨b, hb, hg b b' hgb⟩
      have ha' := hg a a' ha
      obtain ⟨rfl,rfl⟩ : before.filterMap g = before' ∧ after.filterMap g = after' := by
        refine append_split (ih.trans hl') (n := a'.1) (fun b' hb' => ?_) (fun b' hb' => ?_) hbefore' hafter'
        · obtain ⟨b,hb,hkey⟩ := hkeys before b' hb'
          exact hkey ▸ ha' ▸ hbefore b hb
        · obtain ⟨b,hb,hkey⟩ := hkeys after b' hb'
          exact hkey ▸ ha' ▸ hafter b hb
      rfl

def alarm? (o : Omission) (q : Nat × Ticket) : Option (Nat × Ticket) :=
  (o.ticket? q.2).map (q.1, ·)

theorem alarm?_spec (a b : Nat × Ticket) (h : o.alarm? a = some b) : b.1 = a.1 := by
  obtain ⟨_,_,rfl⟩ := Option.map_eq_some_iff.mp h
  rfl

theorem tickets_alarms (l : List (Nat × Ticket)) :
    (l.filterMap o.alarm?).map (·.2) = o.tickets (l.map (·.2)) := by
  rw [tickets, List.filterMap_map, List.map_filterMap]
  refine List.filterMap_congr fun q _ => ?_
  cases h : o.ticket? q.2 <;> simp [alarm?, h]

theorem engine_overdue (e : Engine P) : (o.engine e).overdue = o.tickets e.overdue := by
  unfold Engine.overdue
  dsimp only
  rw [filterMap_engine (g := o.alarm?), ← filterMap_mergeSort alarm?_spec, tickets_alarms]
  · rfl
  · intro t a ht
    cases a with
    | watch v =>
      dsimp only
      split <;> simp [alarm?, ticket?_gone ht]
    | _ => rfl
  · intro t a ht
    cases a with
    | watch v =>
      dsimp only
      split <;> simp [alarm?, ticket?_kept ht]
    | _ => rfl

end Omission

end LiveAnalysis
