import Mathlib.Data.List.Flatten
import Mathlib.Data.List.Induction
import Mathlib.Data.List.Perm.Basic
import LiveAnalysis.Analysis.Channel
import LiveAnalysis.Proofs.Lifetimes

/-!
Which waits on a channel are released, and with what. Between two settlements any number of findings may be
published and the channel may close, so a wait sees only what the slot holds at the settlement.
-/

namespace LiveAnalysis

variable {P : Type}

namespace Slot

structure Evolves (s s' : Slot P) : Prop where
  latest : ∀ f, s.latest = some f → ∃ f', s'.latest = some f' ∧ f.version ≤ f'.version
  closed : s.closed = true → s' = s

theorem Evolves.refl (s : Slot P) : s.Evolves s :=
  ⟨fun f h => ⟨f, h, Version.le_refl _⟩, fun _ => rfl⟩

theorem Evolves.trans {s₁ s₂ s₃ : Slot P} (h : s₁.Evolves s₂) (k : s₂.Evolves s₃) : s₁.Evolves s₃ where
  latest f hf := by
    obtain ⟨f',hf',hv⟩ := h.latest f hf
    obtain ⟨f'',hf'',hv'⟩ := k.latest f' hf'
    exact ⟨f'', hf'', Version.le_trans hv hv'⟩
  closed hc := by
    have he := h.closed hc
    rw [k.closed (he ▸ hc), he]

theorem evolves_publish (s : Slot P) (f : Finding P) : s.Evolves (s.publish f).1 := by
  rcases s.publish_cases f with ⟨_,he⟩ | ⟨_,_,he⟩ | ⟨ho,hv,he⟩ <;> rw [he]
  · exact .refl s
  · exact .refl s
  · exact ⟨fun old hl => ⟨f, rfl, hv old hl⟩, fun hc => by simp [ho] at hc⟩

theorem evolves_close (s : Slot P) : s.Evolves s.close where
  latest := (Evolves.refl s).latest
  closed hc := by
    rw [close, ← hc]

/-- Among findings of the newest version the last one counts. -/
def Newest (fs : List (Finding P)) (f : Finding P) : Prop :=
  ∃ before later, fs = before ++ f :: later ∧ (∀ g ∈ before, g.version ≤ f.version) ∧
    ∀ g ∈ later, g.version < f.version

structure Holds (s : Slot P) (fs : List (Finding P)) : Prop where
  nothing : s.latest = none → fs = []
  newest : ∀ f, s.latest = some f → Newest fs f

theorem Newest.all_le {fs : List (Finding P)} {f g : Finding P} (h : Newest fs f) (hg : g ∈ fs) :
    g.version ≤ f.version := by
  obtain ⟨before,later,rfl,hb,hl⟩ := h
  rcases List.mem_append.mp hg with hg | hg
  · exact hb g hg
  · rcases List.mem_cons.mp hg with rfl | hg
    · exact Version.le_refl _
    · exact Nat.le_of_lt (hl g hg)

theorem Holds.publish {s : Slot P} {fs : List (Finding P)} (h : s.Holds fs) (ho : s.closed = false)
    (f : Finding P) : (s.publish f).1.Holds (fs ++ [f]) := by
  rcases s.publish_cases f with ⟨hc,_⟩ | ⟨_,⟨old,hold,hlt⟩,he⟩ | ⟨_,hv,he⟩
  · simp [ho] at hc
  · rw [he]
    refine ⟨fun hn => by simp [hold] at hn, fun g hg => ?_⟩
    cases hold.symm.trans hg
    obtain ⟨before,later,rfl,hb,hl⟩ := h.newest old hold
    refine ⟨before, later ++ [f], by simp, hb, fun g hg => ?_⟩
    rcases List.mem_append.mp hg with hg | hg
    · exact hl g hg
    · cases List.mem_singleton.mp hg
      exact hlt
  · rw [he]
    refine ⟨fun hn => by simp at hn, ?_⟩
    rintro _ ⟨rfl⟩
    refine ⟨fs, [], rfl, fun g hg => ?_, fun g hg => absurd hg List.not_mem_nil⟩
    cases hl : s.latest with
    | none => simp [h.nothing hl] at hg
    | some old => exact Version.le_trans ((h.newest old hl).all_le hg) (hv old hl)

end Slot

namespace Channel

inductive Operation (P : Type) where
  | publish (id : DocumentId) (version : Version) (payload : P)
  | close
  | drop
  | subscribe (id : DocumentId)
  | letGo (waiter : Nat)
  | wait (waiter : Nat) (atLeast : Version)
  | settle
  deriving DecidableEq, Repr

def allows (c : Channel P) : Operation P → Bool
  | .publish .. | .close | .drop | .subscribe _ => !c.dropped
  | .letGo place | .wait place _ => c.waiters[place]?.any (·.held)
  | .settle => true

def act (c : Channel P) : Operation P → Channel P
  | .publish id version payload => (c.publish version payload id).1
  | .close => c.close
  | .drop => c.drop
  | .subscribe id => (c.subscribe id).1
  | .letGo place => c.letGo place
  | .wait place atLeast => (c.wait place atLeast).1
  | .settle => c.settle

def perform (c : Channel P) (op : Operation P) : Channel P :=
  if c.allows op then c.act op else c

def after (c : Channel P) (ops : List (Operation P)) : Channel P :=
  ops.foldl perform c

def seen {α : Type} (what : Channel P → Operation P → List α) (c : Channel P) (op : Operation P) : List α :=
  if c.allows op then what c op else []

def record {α : Type} (what : Channel P → Operation P → List α) (c : Channel P) :
    List (Operation P) → List α
  | [] => []
  | op :: ops => c.seen what op ++ (c.perform op).record what ops

def offered (c : Channel P) : Operation P → List (Finding P)
  | .publish id version payload => if c.slot.closed then [] else [⟨id,version,payload⟩]
  | _ => []

def created (_ : Channel P) : Operation P → List DocumentId
  | .subscribe id => [id]
  | _ => []

def begun (c : Channel P) : Operation P → List (Nat × Wait)
  | .wait place atLeast => [(place,⟨c.tickets,atLeast⟩)]
  | _ => []

def released (c : Channel P) (op : Operation P) : List (Nat × Except Refusal (Finding P)) :=
  (c.perform op).ended.drop c.ended.length

theorem after_concat (c : Channel P) (ops : List (Operation P)) (op : Operation P) :
    c.after (ops ++ [op]) = (c.after ops).perform op := by
  simp only [after, List.foldl_append, List.foldl_cons, List.foldl_nil]

theorem record_concat {α : Type} (what : Channel P → Operation P → List α) (c : Channel P)
    (ops : List (Operation P)) (op : Operation P) :
    c.record what (ops ++ [op]) = c.record what ops ++ (c.after ops).seen what op := by
  induction ops generalizing c with
  | nil => exact List.append_nil _
  | cons first ops ih =>
    simp only [List.cons_append, record, ih, List.append_assoc]
    rfl

theorem act_evolves (c : Channel P) (op : Operation P) : c.slot.Evolves (c.act op).slot := by
  cases op with
  | publish id version payload => exact c.slot.evolves_publish _
  | close | drop => exact c.slot.evolves_close
  | subscribe | letGo | wait | settle => exact .refl _

theorem after_evolves (c : Channel P) (more : List (Operation P)) : c.slot.Evolves (c.after more).slot := by
  induction more generalizing c with
  | nil => exact .refl _
  | cons op more ih =>
    refine Slot.Evolves.trans ?_ (ih (c.perform op))
    unfold perform
    split
    · exact c.act_evolves op
    · exact .refl _

theorem act_latest (c : Channel P) {op : Operation P}
    (hn : ∀ id version payload, op ≠ .publish id version payload) : (c.act op).slot.latest = c.slot.latest := by
  cases op with
  | publish id version payload => exact absurd rfl (hn id version payload)
  | _ => rfl

theorem serve_spec (slot : Slot P) (id : DocumentId) (line : List Wait) :
    ∃ done, line = done ++ (serve slot id line).2 ∧ (serve slot id line).1.map (·.1) = done.map (·.ticket) ∧
      (∀ x ∈ (serve slot id line).1, ∃ v ∈ done, v.ticket = x.1 ∧ slot.answer? id v.atLeast = some x.2) ∧
      ∀ v rest, (serve slot id line).2 = v :: rest → slot.answer? id v.atLeast = none := by
  induction line with
  | nil => exact ⟨[], rfl, rfl, by simp [serve], by simp [serve]⟩
  | cons v line ih =>
    unfold serve
    cases ha : slot.answer? id v.atLeast with
    | none => exact ⟨[], rfl, rfl, by simp, by simp +contextual [ha]⟩
    | some answer =>
      obtain ⟨done,hline,htickets,hanswers,hstuck⟩ := ih
      refine ⟨v :: done, congrArg (v :: ·) hline, congrArg (v.ticket :: ·) htickets, fun x hx => ?_, hstuck⟩
      rcases List.mem_cons.mp hx with rfl | hx
      · exact ⟨v, List.mem_cons_self, rfl, ha⟩
      · obtain ⟨u,hu,he⟩ := hanswers x hx
        exact ⟨u, List.mem_cons_of_mem _ hu, he⟩

def lines (c : Channel P) : List (List Wait) :=
  c.waiters.map (·.line)

def waiting (c : Channel P) : List Nat :=
  c.lines.flatMap (·.map (·.ticket))

theorem released_settle (c : Channel P) :
    c.released .settle = c.waiters.flatMap fun w => (serve c.slot w.id w.line).1 :=
  List.drop_left

theorem lines_settle (c : Channel P) :
    c.settle.lines = c.waiters.map fun w => (serve c.slot w.id w.line).2 :=
  List.map_map

theorem waiting_settle (c : Channel P) :
    ((c.released .settle).map (·.1) ++ c.settle.waiting).Perm c.waiting := by
  have hserve : ∀ w ∈ c.waiters, (serve c.slot w.id w.line).1.map (·.1) ++
      (serve c.slot w.id w.line).2.map (·.ticket) = w.line.map (·.ticket) := by
    intro w _
    obtain ⟨done,hline,htickets,_⟩ := serve_spec c.slot w.id w.line
    rw [htickets, ← List.map_append, ← hline]
  rw [released_settle, List.map_flatMap, waiting, lines_settle, List.flatMap_map, waiting, lines,
    List.flatMap_map]
  exact (List.flatMap_append_perm _ _ _).trans (.of_eq (List.flatMap_congr hserve))

theorem map_modify {α β : Type} {f : α → β} {g : α → α} {g' : β → β} (h : ∀ a, f (g a) = g' (f a))
    (as : List α) (i : Nat) : (as.modify i g).map f = (as.map f).modify i g' := by
  refine List.ext_getElem? fun j => ?_
  rw [List.getElem?_map, List.getElem?_modify, List.getElem?_modify, List.getElem?_map]
  cases as[j]? with
  | none => rfl
  | some a =>
    by_cases hj : i = j
    · simp [hj, h]
    · simp [hj]

theorem perm_modify_concat {ls : List (List Wait)} {place : Nat} (hp : place < ls.length) (v : Wait) :
    ((ls.modify place (· ++ [v])).flatMap (·.map (·.ticket))).Perm
      (ls.flatMap (·.map (·.ticket)) ++ [v.ticket]) := by
  induction ls generalizing place with
  | nil => simp at hp
  | cons l ls ih =>
    cases place with
    | zero =>
      simp only [List.modify_zero_cons, List.flatMap_cons, List.map_append, List.append_assoc]
      exact .append_left _ List.perm_append_comm
    | succ place =>
      simp only [List.modify_succ_cons, List.flatMap_cons, List.append_assoc]
      exact .append_left _ (ih (Nat.lt_of_succ_lt_succ hp))

def Advanced (c : Channel P) (begun : List Wait) (line : List Wait) : Prop :=
  ∃ finished, begun = finished ++ line ∧ ∀ v ∈ finished, v.ticket ∈ c.ended.map (·.1)

def waitsOn (started : List (Nat × Wait)) (place : Nat) : List Wait :=
  (started.filter (·.1 = place)).map (·.2)

structure Kept (c : Channel P) (ids : List DocumentId) (started : List (Nat × Wait)) : Prop where
  dropped : c.dropped = true → c.slot.closed = true
  ids : c.waiters.map (·.id) = ids
  numbered : started.map (·.2.ticket) = List.range c.tickets
  once : (c.ended.map (·.1) ++ c.waiting).Perm (List.range c.tickets)
  lines : ∀ place, c.Advanced (waitsOn started place) (c.lines[place]?.getD [])

theorem mem_waitsOn {started : List (Nat × Wait)} {place : Nat} {v : Wait} :
    v ∈ waitsOn started place ↔ (place,v) ∈ started := by
  simp [waitsOn]

theorem waitsOn_concat (started : List (Nat × Wait)) (place there : Nat) (v : Wait) :
    waitsOn (started ++ [(there,v)]) place =
      if there = place then waitsOn started place ++ [v] else waitsOn started place := by
  by_cases h : there = place <;> simp [waitsOn, h]

theorem kept_new (id : DocumentId) : Kept ({ id } : Channel P) [] [] :=
  ⟨by simp, rfl, rfl, .refl _, fun _ => ⟨[], rfl, by simp⟩⟩

section Steps

variable {c : Channel P} {ids : List DocumentId} {started : List (Nat × Wait)} (h : c.Kept ids started)

include h

theorem Kept.with_slot {slot : Slot P} {dropped : Bool} (hd : dropped = true → slot.closed = true) :
    Kept { c with slot, dropped } ids started :=
  ⟨hd, h.ids, h.numbered, h.once, h.lines⟩

theorem Kept.subscribe (id : DocumentId) : Kept (c.subscribe id).1 (ids ++ [id]) started := by
  have hlines : (c.subscribe id).1.lines = c.lines ++ [[]] := List.map_append
  refine ⟨h.dropped, ?_, h.numbered, ?_, fun place => ?_⟩
  · rw [← h.ids]
    exact List.map_append
  · have hw : (c.subscribe id).1.waiting = c.waiting := by simp [waiting, hlines]
    rw [hw]
    exact h.once
  · have hl : (c.subscribe id).1.lines[place]?.getD [] = c.lines[place]?.getD [] := by
      rw [hlines, List.getElem?_append]
      split
      · rfl
      · rename_i hp
        rw [List.getElem?_eq_none (Nat.not_lt.mp hp)]
        cases place - c.lines.length <;> rfl
    rw [hl]
    exact h.lines place

theorem Kept.letGo (place : Nat) : Kept (c.letGo place) ids started := by
  have hsame : ∀ {β : Type} (f : Waiter → β), (∀ w : Waiter, f { w with held := false } = f w) →
      (c.letGo place).waiters.map f = c.waiters.map f := fun f hf =>
    (map_modify hf c.waiters place).trans (List.modify_id _ _)
  have hlines : (c.letGo place).lines = c.lines := hsame _ fun _ => rfl
  refine ⟨h.dropped, (hsame _ fun _ => rfl).trans h.ids, h.numbered, ?_, ?_⟩
  · rw [waiting, hlines]
    exact h.once
  · rw [hlines]
    exact h.lines

theorem Kept.wait {place : Nat} (hp : place < c.waiters.length) (atLeast : Version) :
    Kept (c.wait place atLeast).1 ids (started ++ [(place,⟨c.tickets,atLeast⟩)]) := by
  have hlines : (c.wait place atLeast).1.lines = c.lines.modify place (· ++ [⟨c.tickets,atLeast⟩]) :=
    map_modify (f := Waiter.line) (fun _ => rfl) c.waiters place
  refine ⟨h.dropped, ?_, ?_, ?_, fun other => ?_⟩
  · exact (map_modify (f := Waiter.id) (fun _ => rfl) c.waiters place).trans ((List.modify_id _ _).trans h.ids)
  · rw [List.map_append, h.numbered]
    exact List.range_succ.symm
  · have hall : (c.wait place atLeast).1.waiting.Perm (c.waiting ++ [c.tickets]) := by
      rw [waiting, hlines]
      exact perm_modify_concat (by simpa [Channel.lines] using hp) _
    refine (hall.append_left _).trans ?_
    change List.Perm _ (List.range (c.tickets + 1))
    rw [← List.append_assoc, List.range_succ]
    exact h.once.append_right _
  · obtain ⟨finished,hon,hf⟩ := h.lines other
    refine ⟨finished, ?_, hf⟩
    rw [waitsOn_concat, hlines, List.getElem?_modify]
    split
    · rename_i hplace
      subst hplace
      have hlen : place < c.lines.length := by simpa [Channel.lines] using hp
      rw [hon, List.getElem?_eq_getElem hlen, List.append_assoc]
      rfl
    · rw [hon]
      cases c.lines[other]? <;> rfl

theorem Kept.settle : Kept c.settle ids started := by
  have hended : c.settle.ended = c.ended ++ c.released .settle := by
    rw [released_settle]
    rfl
  refine ⟨h.dropped, ?_, h.numbered, ?_, fun place => ?_⟩
  · rw [← h.ids]
    exact List.map_map
  · rw [hended, List.map_append, List.append_assoc]
    exact (c.waiting_settle.append_left _).trans h.once
  · obtain ⟨finished,hon,hf⟩ := h.lines place
    have hstill : ∀ v ∈ finished, v.ticket ∈ c.settle.ended.map (·.1) := by
      intro v hv
      rw [hended, List.map_append]
      exact List.mem_append_left _ (hf v hv)
    rw [lines_settle, List.getElem?_map]
    rw [Channel.lines, List.getElem?_map] at hon
    cases hw : c.waiters[place]? with
    | none =>
      rw [hw] at hon
      exact ⟨finished, hon, hstill⟩
    | some w =>
      rw [hw] at hon
      obtain ⟨done,hline,htickets,_⟩ := serve_spec c.slot w.id w.line
      refine ⟨finished ++ done, ?_, fun v hv => ?_⟩
      · rw [hon, List.append_assoc]
        exact congrArg (finished ++ ·) hline
      · rcases List.mem_append.mp hv with hv | hv
        · exact hstill v hv
        · have hm : v.ticket ∈ (serve c.slot w.id w.line).1.map (·.1) :=
            htickets ▸ List.mem_map_of_mem hv
          rw [hended, List.map_append, released_settle, List.map_flatMap]
          exact List.mem_append_right _ (List.mem_flatMap.mpr ⟨w, List.mem_of_getElem? hw, hm⟩)

theorem Kept.act {op : Operation P} (ha : c.allows op = true) :
    Kept (c.act op) (ids ++ c.created op) (started ++ c.begun op) := by
  cases op with
  | publish id version payload =>
    simp only [created, begun, List.append_nil]
    refine h.with_slot fun hd => ?_
    have hc := h.dropped hd
    have hslot : (c.slot.publish ⟨id,version,payload⟩).1 = c.slot := (c.slot.evolves_publish _).closed hc
    exact (congrArg Slot.closed hslot).trans hc
  | close =>
    simp only [created, begun, List.append_nil]
    exact h.with_slot fun _ => rfl
  | drop =>
    simp only [created, begun, List.append_nil]
    exact h.with_slot fun _ => rfl
  | subscribe id =>
    simp only [begun, List.append_nil]
    exact h.subscribe id
  | letGo place =>
    simp only [created, begun, List.append_nil]
    exact h.letGo place
  | wait place atLeast =>
    simp only [created, List.append_nil]
    cases hw : c.waiters[place]? with
    | none => simp [allows, hw] at ha
    | some w => exact h.wait (List.getElem?_eq_some_iff.mp hw).1 atLeast
  | settle =>
    simp only [created, begun, List.append_nil]
    exact h.settle

theorem Kept.perform (op : Operation P) :
    Kept (c.perform op) (ids ++ c.seen created op) (started ++ c.seen begun op) := by
  unfold Channel.perform seen
  split
  · rename_i ha
    exact h.act ha
  · simpa using h

omit h in
theorem Advanced.mem_line {begun line : List Wait} (ha : c.Advanced begun line) {v : Wait} (hv : v ∈ begun)
    (hn : v.ticket ∉ c.ended.map (·.1)) : v ∈ line := by
  obtain ⟨finished,rfl,hf⟩ := ha
  exact (List.mem_append.mp hv).resolve_left fun hm => hn (hf v hm)

theorem Kept.waits_iff {place : Nat} {v : Wait} (hv : (place,v) ∈ started) :
    v.ticket ∉ c.ended.map (·.1) ↔ v ∈ c.lines[place]?.getD [] := by
  refine ⟨(h.lines place).mem_line (mem_waitsOn.mpr hv), fun hm he => ?_⟩
  have hwaiting : v.ticket ∈ c.waiting := by
    cases hl : c.lines[place]? with
    | none => simp [hl] at hm
    | some l =>
      rw [hl] at hm
      exact List.mem_flatMap.mpr ⟨l, List.mem_of_getElem? hl, List.mem_map_of_mem hm⟩
  have hnodup := h.once.nodup_iff.mpr List.nodup_range
  exact (List.nodup_append.mp hnodup).2.2 _ he _ hwaiting rfl

theorem Kept.sorted (place : Nat) :
    (waitsOn started place).Pairwise fun u v => u.ticket < v.ticket := by
  have hall : started.Pairwise fun p q => p.2.ticket < q.2.ticket := by
    rw [← List.pairwise_map (f := fun p : Nat × Wait => p.2.ticket), h.numbered]
    exact List.pairwise_lt_range
  exact List.pairwise_map.mpr (hall.filter _)

theorem Kept.behind {place : Nat} {u v : Wait} (hu : (place,u) ∈ started) (hv : (place,v) ∈ started)
    (huv : u.ticket ≤ v.ticket) (hn : u.ticket ∉ c.ended.map (·.1)) : v.ticket ∉ c.ended.map (·.1) := by
  rw [h.waits_iff hu] at hn
  rw [h.waits_iff hv]
  obtain ⟨finished,hon,_⟩ := h.lines place
  have hsorted := h.sorted place
  have hm : v ∈ waitsOn started place := mem_waitsOn.mpr hv
  rw [hon] at hsorted hm
  refine (List.mem_append.mp hm).resolve_left fun hf => ?_
  exact Nat.not_lt.mpr huv ((List.pairwise_append.mp hsorted).2.2 v hf u hn)

theorem Kept.front {place : Nat} {u : Wait} {rest : List Wait} (hl : c.lines[place]? = some (u :: rest)) :
    (place,u) ∈ started ∧ u.ticket ∉ c.ended.map (·.1) ∧ ∀ v ∈ u :: rest, u.ticket ≤ v.ticket := by
  obtain ⟨finished,hon,_⟩ := h.lines place
  have hsorted := h.sorted place
  rw [hl] at hon
  rw [hon] at hsorted
  have hu : (place,u) ∈ started := by
    rw [← mem_waitsOn, hon]
    exact List.mem_append_right _ List.mem_cons_self
  refine ⟨hu, ?_, fun v hv => ?_⟩
  · rw [h.waits_iff hu, hl]
    exact List.mem_cons_self
  · rcases List.mem_cons.mp hv with rfl | hv
    · exact Nat.le_refl _
    · have hline := (List.pairwise_append.mp hsorted).2.1
      exact Nat.le_of_lt ((List.pairwise_cons.mp hline).1 v hv)

theorem Kept.stuck {place : Nat} {v : Wait} (hv : (place,v) ∈ started)
    (hn : v.ticket ∉ c.settle.ended.map (·.1)) :
    c.slot.closed = false ∧ ∃ u, (place,u) ∈ started ∧ u.ticket ≤ v.ticket ∧
      u.ticket ∉ c.settle.ended.map (·.1) ∧ ∀ f, c.slot.latest = some f → f.version < u.atLeast := by
  rw [h.settle.waits_iff hv] at hn
  cases hl : c.settle.lines[place]? with
  | none => simp [hl] at hn
  | some l =>
    rw [hl] at hn
    cases l with
    | nil => simp at hn
    | cons u rest =>
      obtain ⟨hu,hgoes,hfirst⟩ := h.settle.front hl
      rw [lines_settle, List.getElem?_map, Option.map_eq_some_iff] at hl
      obtain ⟨w,_,hrest⟩ := hl
      obtain ⟨_,_,_,_,hstuck⟩ := serve_spec c.slot w.id w.line
      have hnone := hstuck u rest hrest
      rcases c.slot.answer?_cases w.id u.atLeast with ⟨f,_,_,ha⟩ | ⟨_,_,ha⟩ | ⟨ho,hlate,_⟩
      · simp [hnone] at ha
      · simp [hnone] at ha
      · exact ⟨ho, u, hu, hfirst v hn, hgoes, hlate⟩

def EndsWith (s : Slot P) (id : DocumentId) (atLeast : Version) (x : Except Refusal (Finding P)) : Prop :=
  (∃ f, s.latest = some f ∧ atLeast ≤ f.version ∧ x = .ok f) ∨
  (s.closed = true ∧ (∀ f, s.latest = some f → f.version < atLeast) ∧ x = .error (.documentClosed id))

theorem Kept.answers {x : Nat × Except Refusal (Finding P)} (hx : x ∈ c.released .settle) :
    ∃ place v id, (place,v) ∈ started ∧ ids[place]? = some id ∧ x.1 = v.ticket ∧
      EndsWith c.slot id v.atLeast x.2 := by
  rw [released_settle] at hx
  obtain ⟨w,hm,hx⟩ := List.mem_flatMap.mp hx
  obtain ⟨place,hw⟩ := List.getElem?_of_mem hm
  obtain ⟨done,hline,_,hanswers,_⟩ := serve_spec c.slot w.id w.line
  obtain ⟨v,hv,hticket,ha⟩ := hanswers x hx
  obtain ⟨finished,hon,_⟩ := h.lines place
  have hstarted : (place,v) ∈ started := by
    rw [← mem_waitsOn, hon, Channel.lines, List.getElem?_map, hw]
    refine List.mem_append_right _ ?_
    change v ∈ w.line
    rw [hline]
    exact List.mem_append_left _ hv
  refine ⟨place, v, w.id, hstarted, ?_, hticket.symm, ?_⟩
  · rw [← h.ids, List.getElem?_map, hw]
    rfl
  · rcases c.slot.answer?_cases w.id v.atLeast with ⟨f,hf,hle,he⟩ | ⟨hc,hlate,he⟩ | ⟨_,_,he⟩
    · exact Or.inl ⟨f, hf, hle, Option.some.inj (ha.symm.trans he)⟩
    · exact Or.inr ⟨hc, hlate, Option.some.inj (ha.symm.trans he)⟩
    · simp [ha] at he

omit h in
theorem released_waiting {op : Operation P} (ho : op ≠ .settle) : c.released op = [] := by
  have hsame : (c.perform op).ended = c.ended := by
    unfold Channel.perform
    split
    · cases op <;> first | rfl | exact absurd rfl ho
    · rfl
  rw [released, hsame, List.drop_length]

theorem Kept.shared {more : List (Operation P)} (hp : ∀ id version payload, .publish id version payload ∉ more)
    {x : Nat × Except Refusal (Finding P)} (hx : x ∈ c.record released more) {f : Finding P}
    (hf : x.2 = .ok f) : c.slot.latest = some f := by
  induction more generalizing c ids started with
  | nil => exact absurd hx List.not_mem_nil
  | cons op more ih =>
    rcases List.mem_append.mp hx with hx | hx
    · have hm : x ∈ c.released op := by
        unfold seen at hx
        split at hx
        · exact hx
        · exact absurd hx List.not_mem_nil
      by_cases ho : op = .settle
      · subst ho
        obtain ⟨_,_,_,_,_,_,he⟩ := h.answers hm
        rcases he with ⟨g,hg,_,hok⟩ | ⟨_,_,herror⟩
        · cases hok.symm.trans hf
          exact hg
        · simp [hf] at herror
      · simp [released_waiting ho] at hm
    · have hlatest : (c.perform op).slot.latest = c.slot.latest := by
        unfold Channel.perform
        split
        · exact c.act_latest fun id version payload ho => hp id version payload (ho ▸ List.mem_cons_self)
        · rfl
      rw [← hlatest]
      exact ih (h.perform op) (fun id version payload hm => hp id version payload (List.mem_cons_of_mem _ hm)) hx

end Steps

section Outset

variable (id : DocumentId) (ops : List (Operation P))

theorem kept_after : Kept (after { id } ops) (record created { id } ops) (record begun { id } ops) := by
  induction ops using List.reverseRecOn with
  | nil => exact kept_new id
  | append_singleton ops op ih =>
    rw [after_concat, record_concat, record_concat]
    exact ih.perform op

theorem holds_after : (after { id } ops).slot.Holds (record offered { id } ops) := by
  induction ops using List.reverseRecOn with
  | nil => exact ⟨fun _ => rfl, by simp [after]⟩
  | append_singleton ops op ih =>
    rw [after_concat, record_concat]
    unfold perform seen
    split
    · have hsame : ∀ s : Slot P, s.latest = (after { id } ops).slot.latest →
          s.Holds (record offered { id } ops ++ []) := fun s hs => by
        rw [List.append_nil]
        exact ⟨fun hn => ih.nothing (hs ▸ hn), fun f hf => ih.newest f (hs ▸ hf)⟩
      cases op with
      | publish author version payload =>
        simp only [offered]
        cases hc : (after { id } ops).slot.closed with
        | true =>
          refine hsame _ ?_
          exact congrArg Slot.latest (((after { id } ops).slot.evolves_publish _).closed hc)
        | false => exact ih.publish hc _
      | close | drop | subscribe | letGo | wait | settle => exact hsame _ rfl
    · simpa using ih

theorem closed_after : (after { id } ops).slot.closed = true ↔ .close ∈ ops ∨ .drop ∈ ops := by
  induction ops using List.reverseRecOn with
  | nil => simp [after]
  | append_singleton ops op ih =>
    have hdropped := (kept_after id ops).dropped
    rw [after_concat]
    cases op with
    | close | drop =>
      simp only [List.mem_append, List.mem_singleton, or_true, true_or, iff_true]
      unfold perform
      split
      · rfl
      · rename_i hn
        exact hdropped (by simpa [allows] using hn)
    | publish author version payload =>
      have hp : ∀ f, ((after { id } ops).slot.publish f).1.closed = (after { id } ops).slot.closed := by
        intro f
        rcases (after { id } ops).slot.publish_cases f with ⟨_,he⟩ | ⟨_,_,he⟩ | ⟨_,_,he⟩ <;> rw [he]
      have hsame : ((after { id } ops).perform (.publish author version payload)).slot.closed =
          (after { id } ops).slot.closed := by
        unfold perform
        split
        · exact hp _
        · rfl
      rw [hsame, ih]
      simp
    | subscribe | letGo | wait | settle =>
      have hsame : ∀ op : Operation P, ((after { id } ops).act op).slot = (after { id } ops).slot →
          ((after { id } ops).perform op).slot = (after { id } ops).slot := by
        intro op he
        unfold perform
        split
        · exact he
        · rfl
      rw [hsame _ rfl, ih]
      simp

theorem waits_released_exactly :
    let c : Channel P := after { id } ops
    let started := record begun { id } ops
    let goes : Wait → Prop := fun v => v.ticket ∉ c.settle.ended.map (·.1)
    (∀ more, c.slot.Evolves (c.after more).slot) ∧
    c.slot.Holds (record offered { id } ops) ∧
    (c.slot.closed = true ↔ .close ∈ ops ∨ .drop ∈ ops) ∧
    (∀ place v, (place,v) ∈ started →
      (goes v ↔ (.close ∉ ops ∧ .drop ∉ ops) ∧ ∃ u, (place,u) ∈ started ∧ u.ticket ≤ v.ticket ∧ goes u ∧
        ∀ f, c.slot.latest = some f → f.version < u.atLeast)) ∧
    (c.settle.ended.map (·.1)).Nodup ∧
    (∀ x ∈ c.released .settle, ∃ place v waiter, (place,v) ∈ started ∧
      (record created { id } ops)[place]? = some waiter ∧ x.1 = v.ticket ∧ EndsWith c.slot waiter v.atLeast x.2) ∧
    (∀ more, (∀ id version payload, .publish id version payload ∉ more) →
      ∀ x ∈ c.record released more, ∀ f, x.2 = .ok f → c.slot.latest = some f) := by
  intro c started goes
  have h : Kept c (record created { id } ops) started := kept_after id ops
  have hclosed := closed_after id ops
  refine ⟨c.after_evolves, holds_after id ops, hclosed, fun place v hv => ?_, ?_, fun x hx => h.answers hx,
    fun more hp x hx f hf => h.shared hp hx hf⟩
  · constructor
    · intro hn
      obtain ⟨ho,hu⟩ := h.stuck hv hn
      refine ⟨?_, hu⟩
      rw [← not_or, ← hclosed, Bool.not_eq_true]
      exact ho
    · rintro ⟨_,u,hu,huv,hn,_⟩
      exact h.settle.behind hu hv huv hn
  · exact (List.nodup_append.mp (h.settle.once.nodup_iff.mpr List.nodup_range)).1

-- A wait that could end stays behind one on the same waiter that cannot, and the close does not take the
-- finding away from either.
example :
    let a : DocumentId := ⟨"file:///a"⟩
    let ops : List (Operation Nat) := [.subscribe a, .wait 0 ⟨1⟩, .wait 0 ⟨0⟩, .publish a ⟨0⟩ 7]
    (after { id := a } ops).released .settle = [] ∧
    (after { id := a } (ops ++ [.settle, .letGo 0, .publish a ⟨2⟩ 8, .publish a ⟨1⟩ 9, .close])).released .settle =
      [(0,.ok ⟨a,⟨2⟩,8⟩),(1,.ok ⟨a,⟨2⟩,8⟩)] := by
  decide +kernel

end Outset

end Channel

end LiveAnalysis
