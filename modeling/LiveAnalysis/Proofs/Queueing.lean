import Mathlib.Data.List.Nodup
import Mathlib.Data.List.Perm.Basic
import LiveAnalysis.Work.Queue

namespace LiveAnalysis.Queue

structure Sound (q : Queue) : Prop where
  nodup : q.order.Nodup
  pending : q.pending.Perm q.order
  emptied : q.shutDown = true → q.order = []

theorem sound_new : ({} : Queue).Sound :=
  ⟨List.nodup_nil, List.Perm.refl _, fun h => by simp at h⟩

section Frame

variable (q : Queue)

theorem enqueue_shutDown (id : DocumentId) : (q.enqueue id).1.shutDown = q.shutDown := by
  unfold enqueue
  split
  · rfl
  · split <;> rfl

theorem remove_shutDown (id : DocumentId) : (q.remove id).1.shutDown = q.shutDown := by
  unfold remove
  split <;> rfl

theorem hand_shutDown : q.hand.1.shutDown = q.shutDown := by
  unfold hand
  split
  · rfl
  · split <;> rfl

@[simp] theorem leave_order (rest : List DocumentId) : (q.leave rest).order = rest := rfl

@[simp] theorem leave_shutDown (rest : List DocumentId) : (q.leave rest).shutDown = q.shutDown := rfl

variable {q}

theorem enqueue_shut (h : q.shutDown = true) (id : DocumentId) : (q.enqueue id).1 = q := by
  simp [enqueue, h]

theorem mem_enqueue_of_mem {x : DocumentId} (h : x ∈ q.order) (id : DocumentId) :
    x ∈ (q.enqueue id).1.order := by
  unfold enqueue
  split
  · exact h
  · split
    · exact h
    · exact List.mem_append_left _ h

theorem mem_of_enqueue {id x : DocumentId} (h : x ∈ (q.enqueue id).1.order) :
    x ∈ q.order ∨ x = id := by
  unfold enqueue at h
  split at h
  · exact Or.inl h
  · split at h
    · exact Or.inl h
    · exact (List.mem_append.mp h).imp_right List.mem_singleton.mp

theorem remove_sublist (q : Queue) (id : DocumentId) : (q.remove id).1.order.Sublist q.order := by
  unfold remove
  split
  · exact List.filter_sublist
  · exact List.Sublist.refl _

theorem mem_remove {id x : DocumentId} (h : x ∈ q.order) (hx : x ≠ id) : x ∈ (q.remove id).1.order := by
  unfold remove
  split
  · exact List.mem_filter.mpr ⟨h, decide_eq_true hx⟩
  · exact h

end Frame

section Sound

variable {q : Queue} (h : q.Sound)

include h

theorem Sound.mem_pending {id : DocumentId} : id ∈ q.pending ↔ id ∈ q.order :=
  h.pending.mem_iff

theorem Sound.mem_enqueue {id x : DocumentId} (hr : q.shutDown = false) :
    x ∈ (q.enqueue id).1.order ↔ x ∈ q.order ∨ x = id := by
  constructor
  · exact mem_of_enqueue
  · rintro (hx | rfl)
    · exact mem_enqueue_of_mem hx id
    · simp only [enqueue, hr, h.mem_pending, Bool.false_eq_true, if_false]
      split
      · assumption
      · simp

theorem Sound.remove_order (id : DocumentId) :
    (q.remove id).1.order = q.order.filter (· ≠ id) := by
  unfold remove
  split
  · rfl
  · rename_i hm
    rw [h.mem_pending] at hm
    refine (List.filter_eq_self.mpr ?_).symm
    intro x hx
    exact decide_eq_true fun he => hm (he ▸ hx)

theorem Sound.enqueue (id : DocumentId) : (q.enqueue id).1.Sound := by
  unfold Queue.enqueue
  split
  · exact h
  · rename_i hr
    split
    · exact h
    · rename_i hm
      rw [h.mem_pending] at hm
      refine ⟨?_, ?_, fun hs => absurd hs hr⟩
      · exact List.nodup_append_comm.mp (List.nodup_cons.mpr ⟨hm,h.nodup⟩)
      · exact (h.pending.cons id).trans (List.perm_append_singleton id q.order).symm

theorem Sound.remove (id : DocumentId) : (q.remove id).1.Sound := by
  unfold Queue.remove
  split
  · refine ⟨h.nodup.filter _, ?_, fun hs => ?_⟩
    · have he := h.pending.erase id
      rw [h.nodup.erase_eq_filter] at he
      simpa only [ne_eq, decide_not, bne, beq_eq_decide] using he
    · rw [h.emptied hs]
      rfl
  · exact h

theorem Sound.hand : q.hand.1.Sound := by
  unfold Queue.hand
  split
  · exact h
  · rename_i hr
    split
    · exact h
    · rename_i id rest horder
      have hnodup := horder ▸ h.nodup
      refine ⟨(List.nodup_cons.mp hnodup).2, ?_, fun hs => absurd hs hr⟩
      have he := h.pending.erase id
      rw [horder, List.erase_cons_head] at he
      exact he

theorem Sound.leave {rest : List DocumentId} (hr : rest.Sublist q.order) : (q.leave rest).Sound where
  nodup := h.nodup.sublist hr
  pending := by
    have hp : q.pending.Nodup := h.pending.nodup_iff.mpr h.nodup
    refine (List.perm_ext_iff_of_nodup (hp.filter _) (h.nodup.sublist hr)).mpr fun x => ?_
    rw [List.mem_filter, decide_eq_true_eq, h.mem_pending]
    exact ⟨fun hx => hx.2, fun hx => ⟨hr.subset hx,hx⟩⟩
  emptied hs := List.sublist_nil.mp (h.emptied hs ▸ hr)

omit h in
theorem sound_shut (q : Queue) : q.shut.Sound :=
  ⟨List.nodup_nil, List.Perm.refl _, fun _ => rfl⟩

end Sound

def enqueueAll (q : Queue) (ids : List DocumentId) : Queue :=
  ids.foldl (fun q id => (q.enqueue id).1) q

theorem enqueueAll_shutDown (q : Queue) (ids : List DocumentId) :
    (q.enqueueAll ids).shutDown = q.shutDown := by
  induction ids generalizing q with
  | nil => rfl
  | cons id ids ih => exact (ih _).trans (q.enqueue_shutDown id)

theorem enqueueAll_shut {q : Queue} (h : q.shutDown = true) (ids : List DocumentId) :
    q.enqueueAll ids = q := by
  induction ids with
  | nil => rfl
  | cons id ids ih =>
    simp only [enqueueAll, List.foldl_cons, enqueue_shut h] at ih ⊢
    exact ih

theorem mem_enqueueAll_of_mem {q : Queue} {x : DocumentId} (h : x ∈ q.order) (ids : List DocumentId) :
    x ∈ (q.enqueueAll ids).order := by
  induction ids generalizing q with
  | nil => exact h
  | cons id ids ih => exact ih (mem_enqueue_of_mem h id)

theorem mem_of_enqueueAll {q : Queue} {ids : List DocumentId} {x : DocumentId}
    (h : x ∈ (q.enqueueAll ids).order) : x ∈ q.order ∨ x ∈ ids := by
  induction ids generalizing q with
  | nil => exact Or.inl h
  | cons id ids ih =>
    rcases ih h with hx | hx
    · exact (mem_of_enqueue hx).imp_right fun hid => List.mem_cons.mpr (Or.inl hid)
    · exact Or.inr (List.mem_cons_of_mem _ hx)

theorem Sound.enqueueAll {q : Queue} (h : q.Sound) (ids : List DocumentId) : (q.enqueueAll ids).Sound := by
  induction ids generalizing q with
  | nil => exact h
  | cons id ids ih => exact ih (h.enqueue id)

end LiveAnalysis.Queue
