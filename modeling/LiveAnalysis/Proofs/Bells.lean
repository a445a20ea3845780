import Mathlib.Data.List.Nodup
import LiveAnalysis.Work.Bell

namespace LiveAnalysis.Bell

structure Sound (b : Bell) : Prop where
  waiting : b.waiting.Nodup
  rung : b.rung.Nodup
  apart : ∀ t ∈ b.rung, t ∉ b.waiting

/-- As long as somebody waits, as many rings are on their way as there are documents to be fetched. -/
def Covers (b : Bell) (n : Nat) : Prop :=
  b.waiting ≠ [] → n ≤ b.rung.length

inductive Rings (b : Bell) : Bell → Option Ticket → Prop where
  | kept (h : b.waiting = []) : Rings b { b with kept := true } none
  | wakes {t rest} (h : b.waiting = t :: rest) :
    Rings b { b with waiting := rest, rung := t :: b.rung } (some t)

theorem rings (b : Bell) : Rings b b.ring.1 b.ring.2 := by
  unfold ring
  split
  · exact .kept ‹_›
  · exact .wakes ‹_›

section Rings

variable {b b' : Bell} {o : Option Ticket} (h : Rings b b' o)

include h

theorem Rings.waiting_of {u : Ticket} (hu : u ∈ b'.waiting) : u ∈ b.waiting := by
  cases h with
  | kept => exact hu
  | wakes hw => exact hw ▸ List.mem_cons_of_mem _ hu

theorem Rings.still_waits {u : Ticket} (hu : u ∈ b.waiting) : u ∈ b'.waiting ∨ u ∈ o.toList := by
  cases h with
  | kept => exact Or.inl hu
  | wakes hw =>
    rw [hw] at hu
    rcases List.mem_cons.mp hu with rfl | hu
    · exact Or.inr List.mem_cons_self
    · exact Or.inl hu

theorem Rings.rung_of {u : Ticket} (hu : u ∈ b'.rung) : u ∈ b.rung ∨ u ∈ b.waiting ∧ u ∈ o.toList := by
  cases h with
  | kept => exact Or.inl hu
  | wakes hw =>
    rcases List.mem_cons.mp hu with rfl | hu
    · exact Or.inr ⟨hw ▸ List.mem_cons_self, List.mem_cons_self⟩
    · exact Or.inl hu

theorem Rings.sound (hb : b.Sound) : b'.Sound := by
  cases h with
  | kept => exact ⟨hb.waiting, hb.rung, hb.apart⟩
  | @wakes t rest hw =>
    have hwaiting := hb.waiting
    have hapart := hb.apart
    rw [hw] at hwaiting hapart
    obtain ⟨ht,hrest⟩ := List.nodup_cons.mp hwaiting
    refine ⟨hrest, List.nodup_cons.mpr ⟨?_,hb.rung⟩, ?_⟩
    · exact fun hr => hapart t hr List.mem_cons_self
    · intro u hu
      rcases List.mem_cons.mp hu with rfl | hu
      · exact ht
      · exact fun hm => hapart u hu (List.mem_cons_of_mem _ hm)

theorem Rings.covers {n : Nat} (hn : b.Covers n) : b'.Covers (n + 1) := by
  cases h with
  | kept hw => exact fun hne => absurd hw hne
  | wakes hw =>
    intro _
    have := hn (by simp [hw])
    simpa using this

end Rings

section Sound

variable {b : Bell} (h : b.Sound)

include h

theorem Sound.ringAll : b.ringAll.1.ring.1.Sound :=
  (rings _).sound ⟨List.nodup_nil, h.rung, fun _ _ => List.not_mem_nil⟩

theorem Sound.answer (t : Ticket) : (b.answer t).Sound where
  waiting := h.waiting.erase t
  rung := h.rung.erase t
  apart u hu hw := h.apart u (List.mem_of_mem_erase hu) (List.mem_of_mem_erase hw)

theorem Sound.rung_answer {t u : Ticket} : u ∈ (b.answer t).rung ↔ u ≠ t ∧ u ∈ b.rung :=
  h.rung.mem_erase_iff

theorem Sound.waiting_answer {t u : Ticket} : u ∈ (b.answer t).waiting ↔ u ≠ t ∧ u ∈ b.waiting :=
  h.waiting.mem_erase_iff

theorem Sound.wait {t : Ticket} (hr : t ∉ b.rung) (hw : t ∉ b.waiting) : (b.wait t).Sound where
  waiting := List.nodup_append_comm.mp (List.nodup_cons.mpr ⟨hw,h.waiting⟩)
  rung := h.rung
  apart u hu hm := by
    rcases List.mem_append.mp hm with hm | hm
    · exact h.apart u hu hm
    · exact hr (List.mem_singleton.mp hm ▸ hu)

end Sound

theorem covers_answer {b : Bell} {n m : Nat} (h : b.Covers n) (t : Ticket) (hm : m = 0 ∨ m + 1 ≤ n) :
    (b.answer t).Covers m := by
  intro hw
  have hold : b.waiting ≠ [] := fun hn => hw (by simp [answer, hn])
  have hlen : b.rung.length - 1 ≤ (b.answer t).rung.length := by
    rw [answer, List.length_erase]
    split <;> omega
  have := h hold
  omega

theorem leave_cases (b : Bell) (t : Ticket) :
    (t ∉ b.rung ∧ b.leave t = ({ b with waiting := b.waiting.erase t }, none)) ∨
      (t ∈ b.rung ∧ Rings { b with rung := b.rung.erase t } (b.leave t).1 (b.leave t).2) := by
  unfold leave
  split
  · exact Or.inr ⟨‹_›, rings _⟩
  · exact Or.inl ⟨‹_›, rfl⟩

section Leave

variable {b : Bell} (h : b.Sound) (t : Ticket)

include h

theorem Sound.leave : (b.leave t).1.Sound := by
  rcases b.leave_cases t with ⟨_,he⟩ | ⟨_,hr⟩
  · rw [he]
    exact ⟨h.waiting.erase t, h.rung, fun u hu hw => h.apart u hu (List.mem_of_mem_erase hw)⟩
  · exact hr.sound ⟨h.waiting, h.rung.erase t, fun u hu => h.apart u (List.mem_of_mem_erase hu)⟩

theorem Sound.waiting_leave {u : Ticket} (hu : u ∈ (b.leave t).1.waiting) : u ≠ t ∧ u ∈ b.waiting := by
  rcases b.leave_cases t with ⟨_,he⟩ | ⟨ht,hr⟩
  · rw [he] at hu
    exact h.waiting.mem_erase_iff.mp hu
  · have hw := hr.waiting_of hu
    exact ⟨fun hut => h.apart t ht (hut ▸ hw), hw⟩

theorem Sound.still_waits_leave {u : Ticket} (hu : u ∈ b.waiting) (hut : u ≠ t) :
    u ∈ (b.leave t).1.waiting ∨ u ∈ (b.leave t).2.toList := by
  rcases b.leave_cases t with ⟨_,he⟩ | ⟨_,hr⟩
  · rw [he]
    exact Or.inl (h.waiting.mem_erase_iff.mpr ⟨hut,hu⟩)
  · exact hr.still_waits hu

theorem Sound.rung_leave {u : Ticket} (hu : u ∈ (b.leave t).1.rung) :
    u ≠ t ∧ (u ∈ b.rung ∨ u ∈ b.waiting ∧ u ∈ (b.leave t).2.toList) := by
  rcases b.leave_cases t with ⟨ht,he⟩ | ⟨ht,hr⟩
  · rw [he] at hu
    exact ⟨fun hut => ht (hut ▸ hu), Or.inl hu⟩
  · rcases hr.rung_of hu with hu | ⟨hw,ho⟩
    · obtain ⟨hut,hu⟩ := h.rung.mem_erase_iff.mp hu
      exact ⟨hut, Or.inl hu⟩
    · exact ⟨fun hut => h.apart t ht (hut ▸ hw), Or.inr ⟨hw,ho⟩⟩

omit h in
theorem covers_leave {n : Nat} (hn : b.Covers n) : (b.leave t).1.Covers n := by
  rcases b.leave_cases t with ⟨_,he⟩ | ⟨ht,hr⟩
  · rw [he]
    intro hw
    exact hn fun hnil => hw (by simp [hnil])
  · cases n with
    | zero => exact fun _ => Nat.zero_le _
    | succ n =>
      refine hr.covers fun hw => ?_
      have := hn hw
      have hpos := List.length_pos_of_mem ht
      rw [List.length_erase_of_mem ht]
      omega

end Leave

end LiveAnalysis.Bell
