import Mathlib.Data.List.Induction
import LiveAnalysis.Proofs.Queueing

namespace LiveAnalysis.Queue

inductive Operation where
  | enqueue (id : DocumentId)
  | remove (id : DocumentId)
  | dequeue
  | shut
  deriving DecidableEq, Repr

inductive Passage where
  | added (id : DocumentId)
  | handed (id : DocumentId)
  | removed (id : DocumentId)
  | cleared
  deriving DecidableEq, Repr

def apply (q : Queue) : Operation → Queue
  | .enqueue id => (q.enqueue id).1
  | .remove id => (q.remove id).1
  | .dequeue => q.hand.1
  | .shut => q.shut

def passage? (q : Queue) : Operation → Option Passage
  | .enqueue id => if (q.enqueue id).2 = .added then some (.added id) else none
  | .remove id => if (q.remove id).2 then some (.removed id) else none
  | .dequeue =>
    match q.hand.2 with
    | .item id => some (.handed id)
    | _ => none
  | .shut => some .cleared

def after (q : Queue) (ops : List Operation) : Queue :=
  ops.foldl apply q

def passages (q : Queue) : List Operation → List Passage
  | [] => []
  | op :: ops => (q.passage? op).toList ++ (q.apply op).passages ops

theorem after_concat (q : Queue) (ops : List Operation) (op : Operation) :
    q.after (ops ++ [op]) = (q.after ops).apply op := by
  simp only [after, List.foldl_append, List.foldl_cons, List.foldl_nil]

theorem after_append (q : Queue) (ops more : List Operation) :
    q.after (ops ++ more) = (q.after ops).after more :=
  List.foldl_append

theorem passages_concat (q : Queue) (ops : List Operation) (op : Operation) :
    q.passages (ops ++ [op]) = q.passages ops ++ ((q.after ops).passage? op).toList := by
  induction ops generalizing q with
  | nil => exact List.append_nil _
  | cons first ops ih =>
    simp only [List.cons_append, passages, ih, List.append_assoc]
    rfl

inductive Passes (q q' : Queue) : Operation → Option Passage → Prop where
  | rests {op} (hd : op = .dequeue → q.order = []) (hs : op ≠ .shut) (hq : q' = q) : Passes q q' op none
  | adds {id} (hr : q.shutDown = false) (hn : id ∉ q.order) (hq : q'.order = q.order ++ [id])
    (hs : q'.shutDown = q.shutDown) : Passes q q' (.enqueue id) (some (.added id))
  | hands {id} (hi : q.hand.2 = .item id) (hq : q.order = id :: q'.order)
    (hs : q'.shutDown = q.shutDown) : Passes q q' .dequeue (some (.handed id))
  | removes {id} (hm : id ∈ q.order) (hq : q'.order = q.order.filter (· ≠ id))
    (hs : q'.shutDown = q.shutDown) : Passes q q' (.remove id) (some (.removed id))
  | clears (hq : q' = q.shut) : Passes q q' .shut (some .cleared)

section Exact

variable {q : Queue} (h : q.Sound)

include h

omit h in
theorem enqueue_rejected (id : DocumentId) : (q.enqueue id).2 = .rejected ↔ q.shutDown = true := by
  unfold Queue.enqueue
  split
  · simp_all
  · split <;> simp_all

theorem Sound.enqueue_coalesced (id : DocumentId) : (q.enqueue id).2 = .coalesced ↔ id ∈ q.order := by
  unfold Queue.enqueue
  split
  · rename_i hs
    simp [h.emptied hs]
  · split
    · rename_i hm
      exact iff_of_true rfl (h.mem_pending.mp hm)
    · rename_i hm
      exact iff_of_false (by simp) (mt h.mem_pending.mpr hm)

omit h in
theorem enqueue_kept {id : DocumentId} (hn : (q.enqueue id).2 ≠ .added) : (q.enqueue id).1 = q := by
  unfold enqueue at hn ⊢
  split
  · rfl
  · rename_i hr
    rw [if_neg hr] at hn
    split
    · rfl
    · rename_i hm
      rw [if_neg hm] at hn
      exact absurd rfl hn

omit h in
theorem enqueue_order (id : DocumentId) : (q.enqueue id).1.order =
    if (q.enqueue id).2 = .added then q.order ++ [id] else q.order := by
  unfold enqueue
  split
  · rfl
  · split <;> rfl

theorem Sound.remove_found (id : DocumentId) : (q.remove id).2 = true ↔ id ∈ q.order := by
  unfold Queue.remove
  split
  · rename_i hm
    exact iff_of_true rfl (h.mem_pending.mp hm)
  · rename_i hm
    exact iff_of_false (by simp) (mt h.mem_pending.mpr hm)

theorem Sound.still_open {id : DocumentId} {rest : List DocumentId} (hq : q.order = id :: rest) :
    q.shutDown = false := by
  by_contra hs
  rw [Bool.not_eq_false] at hs
  simp [h.emptied hs] at hq

theorem Sound.hand_front {id : DocumentId} {rest : List DocumentId} (hq : q.order = id :: rest) :
    q.hand.2 = .item id ∧ q.hand.1.order = rest := by
  simp [Queue.hand, h.still_open hq, hq]

omit h in
theorem hand_empty (hq : q.order = []) :
    q.hand = (q, if q.shutDown then .shutDown else .nothing) := by
  unfold hand
  split
  · rfl
  · rw [hq]

theorem Sound.apply (op : Operation) : (q.apply op).Sound := by
  cases op with
  | enqueue id => exact h.enqueue id
  | remove id => exact h.remove id
  | dequeue => exact h.hand
  | shut => exact sound_shut q

theorem Sound.after (ops : List Operation) : (q.after ops).Sound := by
  induction ops generalizing q with
  | nil => exact h
  | cons op ops ih => exact ih (h.apply op)

theorem Sound.passes (op : Operation) : Passes q (q.apply op) op (q.passage? op) := by
  cases op with
  | enqueue id =>
    have ho := q.enqueue_order id
    simp only [passage?, Queue.apply]
    cases hs : (q.enqueue id).2 with
    | added =>
      rw [if_pos hs] at ho
      refine .adds ?_ ?_ ho (q.enqueue_shutDown id)
      · rw [← Bool.not_eq_true, ← enqueue_rejected id, hs]
        simp
      · rw [← h.enqueue_coalesced id, hs]
        simp
    | coalesced => exact .rests (by simp) (by simp) (enqueue_kept (by simp [hs]))
    | rejected => exact .rests (by simp) (by simp) (enqueue_kept (by simp [hs]))
  | remove id =>
    simp only [passage?, Queue.apply]
    split
    · rename_i hs
      exact .removes ((h.remove_found id).mp hs) (h.remove_order id) (q.remove_shutDown id)
    · rename_i hs
      refine .rests (by simp) (by simp) ?_
      rw [h.remove_found, ← h.mem_pending] at hs
      exact congrArg Prod.fst (if_neg hs)
  | dequeue =>
    simp only [passage?, Queue.apply]
    cases hq : q.order with
    | nil =>
      rw [hand_empty hq]
      cases q.shutDown <;> exact .rests (fun _ => hq) (by simp) rfl
    | cons id rest =>
      obtain ⟨hi,ho⟩ := h.hand_front hq
      rw [hi]
      exact .hands hi (hq.trans (by rw [ho])) q.hand_shutDown
  | shut => exact .clears rfl

theorem Sound.leave_after (hr : q.shutDown = false) {taken rest : List DocumentId}
    (hq : q.order = taken ++ rest) : q.leave rest = q.after (List.replicate taken.length .dequeue) := by
  induction taken generalizing q with
  | nil =>
    have hall : q.pending.filter (· ∈ rest) = q.pending := by
      refine List.filter_eq_self.mpr fun x hx => decide_eq_true ?_
      rw [List.nil_append] at hq
      exact hq ▸ h.mem_pending.mp hx
    rw [Queue.leave, hall, ← List.nil_append rest, ← hq]
    rfl
  | cons id taken ih =>
    have hnodup := h.nodup
    rw [hq, List.cons_append] at hnodup
    have hid : id ∉ rest := fun hm =>
      (List.nodup_cons.mp hnodup).1 (List.mem_append_right _ hm)
    have hhand : q.hand.1 = { q with order := taken ++ rest, pending := q.pending.erase id } := by
      simp [Queue.hand, hr, hq]
    have hpending : q.pending.filter (· ∈ rest) = (q.pending.erase id).filter (· ∈ rest) := by
      rw [(h.pending.nodup_iff.mpr h.nodup).erase_eq_filter, List.filter_filter]
      refine List.filter_congr fun x _ => ?_
      have hx : x ∈ rest → x ≠ id := fun hm he => hid (he ▸ hm)
      simpa using hx
    have hnext := ih h.hand (q.hand_shutDown.trans hr) (by rw [hhand])
    rw [List.length_cons, List.replicate_succ]
    refine Eq.trans ?_ hnext
    rw [hhand, Queue.leave, Queue.leave, hpending]

end Exact

/-!
The fate of an entry is settled by the first that befalls it: it is handed out, or it is lost when it is
removed or the row is cleared.
-/

inductive Fate where
  | waiting
  | handed
  | lost
  deriving DecidableEq, Repr

def Fate.andThen : Fate → Fate → Fate
  | .waiting, next => next
  | settled, _ => settled

def Passage.befalls (id : DocumentId) : Passage → Fate
  | .added _ => .waiting
  | .handed x => if x = id then .handed else .waiting
  | .removed x => if x = id then .lost else .waiting
  | .cleared => .lost

def fate (id : DocumentId) (later : List Passage) : Fate :=
  later.foldl (fun f p => f.andThen (p.befalls id)) .waiting

def entries : List Passage → List (DocumentId × Fate)
  | [] => []
  | .added id :: later => (id, fate id later) :: entries later
  | _ :: later => entries later

def handings (ps : List Passage) : List DocumentId :=
  ps.filterMap fun
    | .handed id => some id
    | _ => none

def survivors (ps : List Passage) : List DocumentId :=
  ((entries ps).filter (·.2 ≠ .lost)).map (·.1)

def Passage.settle (p : Passage) (x : DocumentId × Fate) : DocumentId × Fate :=
  (x.1, x.2.andThen (p.befalls x.1))

theorem fate_concat (id : DocumentId) (ps : List Passage) (p : Passage) :
    fate id (ps ++ [p]) = (fate id ps).andThen (p.befalls id) := by
  simp only [fate, List.foldl_append, List.foldl_cons, List.foldl_nil]

theorem entries_concat (ps : List Passage) (p : Passage) :
    entries (ps ++ [p]) = (entries ps).map p.settle ++ entries [p] := by
  induction ps with
  | nil => rfl
  | cons first ps ih =>
    cases first with
    | added id =>
      simp only [List.cons_append, entries, ih, fate_concat, List.map_cons]
      rfl
    | handed id => exact ih
    | removed id => exact ih
    | cleared => exact ih

-- What is lost stays lost, so it may be left out before the next passage or after it.
theorem filter_settle (xs : List (DocumentId × Fate)) (p : Passage) :
    (xs.map p.settle).filter (·.2 ≠ .lost) =
      ((xs.filter (·.2 ≠ .lost)).map p.settle).filter (·.2 ≠ .lost) := by
  rw [List.filter_map, List.filter_map, List.filter_filter]
  congr 2
  funext x
  obtain ⟨id,f⟩ := x
  cases f <;> simp [Passage.settle, Fate.andThen]

/-- Of the entries that were not lost, those at the front have been handed out and the others make up the row. -/
def Served (ps : List Passage) (order : List DocumentId) : Prop :=
  (entries ps).filter (·.2 ≠ .lost) =
    (handings ps).map (·,Fate.handed) ++ order.map (·,Fate.waiting)

theorem filter_spared (f : Fate) (hf : f ≠ .lost) (ids : List DocumentId) :
    (ids.map (·,f)).filter (·.2 ≠ .lost) = ids.map (·,f) := by
  refine List.filter_eq_self.mpr fun x hx => ?_
  obtain ⟨id,_,rfl⟩ := List.mem_map.mp hx
  exact decide_eq_true hf

section Served

variable {ps : List Passage} {order : List DocumentId} (h : Served ps order)

include h

theorem Served.survivors : survivors ps = handings ps ++ order := by
  rw [Queue.survivors, h, List.map_append, List.map_map, List.map_map]
  exact congrArg₂ (· ++ ·) (List.map_id _) (List.map_id _)

theorem Served.settled (p : Passage) :
    (entries (ps ++ [p])).filter (·.2 ≠ .lost) = (handings ps).map (·,Fate.handed) ++
      ((order.map fun id => (id,p.befalls id)).filter (·.2 ≠ .lost) ++ entries [p]) := by
  have hnew : (entries [p]).filter (·.2 ≠ .lost) = entries [p] := by
    cases p <;> rfl
  have hhanded : ((handings ps).map (·,Fate.handed)).map p.settle = (handings ps).map (·,Fate.handed) := by
    rw [List.map_map]
    rfl
  have hwaiting : (order.map (·,Fate.waiting)).map p.settle = order.map fun id => (id,p.befalls id) := by
    rw [List.map_map]
    rfl
  rw [entries_concat, List.filter_append, filter_settle, h, List.map_append, List.filter_append, hhanded,
    hwaiting, filter_spared .handed (by simp), hnew, List.append_assoc]

theorem Served.added (id : DocumentId) : Served (ps ++ [.added id]) (order ++ [id]) := by
  refine (h.settled _).trans ?_
  simp [handings, entries, fate, Passage.befalls]

theorem Served.removed (id : DocumentId) : Served (ps ++ [.removed id]) (order.filter (· ≠ id)) := by
  have hrest : ((order.map fun x => (x,(Passage.removed id).befalls x)).filter (·.2 ≠ .lost)) =
      (order.filter (· ≠ id)).map (·,.waiting) := by
    have hf : ((fun x : DocumentId × Fate => decide (x.2 ≠ .lost)) ∘
        fun x => (x,(Passage.removed id).befalls x)) = fun x => decide (x ≠ id) := by
      funext x
      by_cases hx : id = x
      · simp [Passage.befalls, hx]
      · simp [Passage.befalls, hx, Ne.symm hx]
    rw [List.filter_map, hf]
    refine List.map_congr_left fun x hx => ?_
    have hne : id ≠ x := fun he => by simp [he] at hx
    simp [Passage.befalls, hne]
  refine (h.settled _).trans ?_
  rw [hrest]
  simp [handings, entries]

theorem Served.cleared : Served (ps ++ [.cleared]) [] := by
  refine (h.settled _).trans ?_
  simp [handings, entries, Passage.befalls]

omit h in
theorem Served.handed {id : DocumentId} (h : Served ps (id :: order)) (hid : id ∉ order) :
    Served (ps ++ [.handed id]) order := by
  have hrest : (order.map fun x => (x,(Passage.handed id).befalls x)) = order.map (·,.waiting) := by
    refine List.map_congr_left fun x hx => ?_
    have hne : id ≠ x := fun he => hid (he ▸ hx)
    simp [Passage.befalls, hne]
  refine (h.settled _).trans ?_
  rw [List.map_cons, List.filter_cons, hrest, filter_spared .waiting (by simp)]
  simp [handings, entries, Passage.befalls]

end Served

theorem Served.passes {ps : List Passage} {q q' : Queue} (h : Served ps q.order) (hs : q.Sound)
    {op : Operation} {o : Option Passage} (hp : Passes q q' op o) : Served (ps ++ o.toList) q'.order := by
  cases hp with
  | rests _ _ hq =>
    rw [hq, Option.toList_none, List.append_nil]
    exact h
  | @adds id _ _ hq => exact hq ▸ h.added id
  | hands _ hq =>
    have hnodup := hq ▸ hs.nodup
    exact Served.handed (hq ▸ h) (List.nodup_cons.mp hnodup).1
  | @removes id _ hq => exact hq ▸ h.removed id
  | clears hq => exact hq ▸ h.cleared

theorem served_after (ops : List Operation) :
    Served (({} : Queue).passages ops) (({} : Queue).after ops).order := by
  induction ops using List.reverseRecOn with
  | nil => rfl
  | append_singleton ops op ih =>
    have hs := sound_new.after ops
    rw [passages_concat, after_concat]
    exact ih.passes hs (hs.passes op)

section Overtaking

variable {q : Queue} {id : DocumentId} {ahead : List DocumentId}

def Ahead (ahead : List DocumentId) (id : DocumentId) (ops : List Operation) (ps : List Passage)
    (q : Queue) : Prop :=
  ∃ before behind, q.order = before ++ id :: behind ∧ (handings ps ++ before).Sublist ahead ∧
    ops.count .dequeue = (handings ps).length

theorem Ahead.passes {ops : List Operation} {ps : List Passage} {q' : Queue} {op : Operation}
    {o : Option Passage} (h : Ahead ahead id ops ps q) (hp : Passes q q' op o)
    (hw : ∀ p, o = some p → p.befalls id = .waiting) :
    Ahead ahead id (ops ++ [op]) (ps ++ o.toList) q' := by
  obtain ⟨before,behind,horder,hsub,hcount⟩ := h
  cases hp with
  | rests hd _ hq =>
    have hop : op ≠ .dequeue := fun he => by simp [hd he] at horder
    refine ⟨before, behind, hq ▸ horder, ?_, ?_⟩
    · simpa using hsub
    · simpa [hop] using hcount
  | @adds x _ _ hq =>
    refine ⟨before, behind ++ [x], by rw [hq, horder]; simp, ?_, ?_⟩
    · simpa [handings] using hsub
    · simpa [handings] using hcount
  | @hands x _ hq =>
    have hne : x ≠ id := by
      rintro rfl
      simpa [Passage.befalls] using hw _ rfl
    rw [horder] at hq
    cases before with
    | nil => exact absurd (List.cons.inj hq).1.symm hne
    | cons y before =>
      obtain ⟨rfl,hrest⟩ := List.cons.inj hq
      refine ⟨before, behind, hrest.symm, ?_, ?_⟩
      · simpa [handings] using hsub
      · simpa [handings] using hcount
  | @removes x _ hq =>
    have hne : id ≠ x := by
      rintro rfl
      simpa [Passage.befalls] using hw _ rfl
    refine ⟨before.filter (· ≠ x), behind.filter (· ≠ x), ?_, ?_, ?_⟩
    · rw [hq, horder, List.filter_append, List.filter_cons_of_pos (by simpa using hne)]
    · have hstill := (List.filter_sublist (p := (· ≠ x)) (l := before)).append_left (handings ps)
      simpa [handings] using hstill.trans hsub
    · simpa [handings] using hcount
  | clears => simpa [Passage.befalls] using hw _ rfl

theorem Sound.ahead_after (hs : q.Sound) (hq : q.order = ahead ++ [id]) {later : List Operation}
    (hw : fate id (q.passages later) = .waiting) : Ahead ahead id later (q.passages later) (q.after later) := by
  induction later using List.reverseRecOn with
  | nil => exact ⟨ahead, [], hq, List.Sublist.refl _, rfl⟩
  | append_singleton later op ih =>
    rw [passages_concat] at hw ⊢
    rw [after_concat]
    have hafter := hs.after later
    cases ho : (q.after later).passage? op with
    | none =>
      rw [ho, Option.toList_none, List.append_nil] at hw
      exact (ih hw).passes (ho ▸ hafter.passes op) (by simp)
    | some p =>
      rw [ho, Option.toList_some, fate_concat] at hw
      have hbefore : fate id (q.passages later) = .waiting := by
        cases hf : fate id (q.passages later) <;> simp [hf, Fate.andThen] at hw ⊢
      rw [hbefore] at hw
      refine (ih hbefore).passes (ho ▸ hafter.passes op) ?_
      intro _ hp
      cases hp
      exact hw

theorem Sound.handed_after (hs : q.Sound) (hq : q.order = ahead ++ [id]) {later : List Operation}
    (hf : fate id (q.passages later) = .handed) : ∃ mid rest, later = mid ++ .dequeue :: rest ∧
      (q.after mid).hand.2 = .item id ∧ (handings (q.passages mid)).Sublist ahead := by
  induction later using List.reverseRecOn with
  | nil => simp [passages, fate] at hf
  | append_singleton later op ih =>
    have hp := (hs.after later).passes op
    rw [passages_concat] at hf
    cases ho : (q.after later).passage? op with
    | none =>
      rw [ho, Option.toList_none, List.append_nil] at hf
      obtain ⟨mid,rest,rfl,hmid⟩ := ih hf
      exact ⟨mid, rest ++ [op], by simp, hmid⟩
    | some p =>
      rw [ho, Option.toList_some, fate_concat] at hf
      cases hbefore : fate id (q.passages later) with
      | handed =>
        obtain ⟨mid,rest,rfl,hmid⟩ := ih hbefore
        exact ⟨mid, rest ++ [op], by simp, hmid⟩
      | lost => simp [hbefore, Fate.andThen] at hf
      | waiting =>
        rw [hbefore] at hf
        obtain ⟨before,_,_,hsub,_⟩ := hs.ahead_after hq hbefore
        rw [ho] at hp
        cases hp with
        | hands hi =>
          rename_i x _ _
          have hx : x = id := by
            by_contra hne
            simp [Passage.befalls, hne, Fate.andThen] at hf
          exact ⟨later, [], rfl, hx ▸ hi, (List.sublist_append_left _ before).trans hsub⟩
        | adds => simp [Passage.befalls, Fate.andThen] at hf
        | removes =>
          rename_i x _ _ _
          by_cases hx : x = id <;> simp [Passage.befalls, Fate.andThen, hx] at hf
        | clears => simp [Passage.befalls, Fate.andThen] at hf

end Overtaking

theorem shutDown_after (ops : List Operation) :
    (({} : Queue).after ops).shutDown = true ↔ .shut ∈ ops := by
  induction ops using List.reverseRecOn with
  | nil => simp [after]
  | append_singleton ops op ih =>
    rw [after_concat, List.mem_append, List.mem_singleton, ← ih]
    cases op with
    | enqueue id => simp [Queue.apply, enqueue_shutDown]
    | remove id => simp [Queue.apply, remove_shutDown]
    | dequeue => simp [Queue.apply, hand_shutDown]
    | shut => simp [Queue.apply, Queue.shut]

theorem first_come_first_served (ops : List Operation) :
    let q := ({} : Queue).after ops
    let ps := ({} : Queue).passages ops
    (q.order.Nodup ∧ q.pending.Nodup ∧ ∀ id, id ∈ q.pending ↔ id ∈ q.order) ∧
    (∀ more, .shut ∈ ops → (q.after more).order = [] ∧ (q.after more).pending = []) ∧
    (∀ id, ((q.enqueue id).2 = .rejected ↔ .shut ∈ ops) ∧
      ((q.enqueue id).2 = .coalesced ↔ id ∈ q.order) ∧
      (q.enqueue id).1.order = if (q.enqueue id).2 = .added then q.order ++ [id] else q.order) ∧
    (∀ id, ((q.remove id).2 = true ↔ id ∈ q.order) ∧ (q.remove id).1.order = q.order.filter (· ≠ id)) ∧
    (∀ id rest, q.order = id :: rest → q.hand.2 = .item id ∧ q.hand.1.order = rest) ∧
    (q.order = [] → q.hand = (q, if .shut ∈ ops then .shutDown else .nothing)) ∧
    survivors ps = handings ps ++ q.order ∧
    ∀ id, (q.enqueue id).2 = .added → ∀ later,
      let q' := (q.enqueue id).1
      (fate id (q'.passages later) = .waiting → id ∈ (q'.after later).order ∧
        (handings (q'.passages later)).Sublist q.order ∧ later.count .dequeue ≤ q.order.length) ∧
      (fate id (q'.passages later) = .handed → ∃ mid rest, later = mid ++ .dequeue :: rest ∧
        (q'.after mid).hand.2 = .item id ∧ (handings (q'.passages mid)).Sublist q.order) := by
  intro q ps
  have hs : q.Sound := sound_new.after ops
  have hshut : q.shutDown = true ↔ .shut ∈ ops := shutDown_after ops
  refine ⟨⟨hs.nodup, hs.pending.nodup_iff.mpr hs.nodup, fun id => hs.mem_pending⟩, ?_, ?_, ?_,
    fun id rest => hs.hand_front, ?_, ?_, ?_⟩
  · intro more hops
    have hmore := hs.after more
    have hstill : (q.after more).shutDown = true := by
      rw [← after_append, shutDown_after]
      exact List.mem_append_left _ hops
    have hnil := hmore.emptied hstill
    exact ⟨hnil, List.perm_nil.mp (hnil ▸ hmore.pending)⟩
  · exact fun id => ⟨(enqueue_rejected id).trans hshut, hs.enqueue_coalesced id, enqueue_order id⟩
  · exact fun id => ⟨hs.remove_found id, hs.remove_order id⟩
  · intro hq
    rw [hand_empty hq]
    simp only [hshut]
  · exact (served_after ops).survivors
  · intro id hadded later q'
    have hs' : q'.Sound := hs.enqueue id
    have hq' : q'.order = q.order ++ [id] := (enqueue_order id).trans (if_pos hadded)
    refine ⟨fun hw => ?_, hs'.handed_after hq'⟩
    obtain ⟨before,behind,horder,hsub,hcount⟩ := hs'.ahead_after hq' hw
    refine ⟨by simp [horder], (List.sublist_append_left _ before).trans hsub, ?_⟩
    have hlen := hsub.length_le
    rw [List.length_append] at hlen
    omega

theorem first_come_first_served_readded :
    let a : DocumentId := ⟨"file:///a"⟩
    let b : DocumentId := ⟨"file:///b"⟩
    let ops : List Operation := [.enqueue a, .enqueue b, .remove a]
    let later : List Operation := [.enqueue b, .dequeue, .dequeue]
    let q := ({} : Queue).after ops
    (q.enqueue a).2 = .added ∧ q.order = [b] ∧
    ∃ mid rest, later = mid ++ .dequeue :: rest ∧ ((q.enqueue a).1.after mid).hand.2 = .item a ∧
      (handings ((q.enqueue a).1.passages mid)).Sublist q.order := by
  intro a b ops later q
  have hadded : (q.enqueue a).2 = .added := by decide
  have hlater := (first_come_first_served ops).2.2.2.2.2.2.2 a hadded later
  exact ⟨hadded, by decide, hlater.2 (by decide)⟩

end LiveAnalysis.Queue
