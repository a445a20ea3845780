import LiveAnalysis.Proofs.Wakes
import LiveAnalysis.Proofs.Notices

namespace LiveAnalysis

variable {P : Type}

inductive Agree {α : Type} (alike : α → α → Prop) : Except Refusal α → Except Refusal α → Prop where
  | ok {x y : α} (h : alike x y) : Agree alike (.ok x) (.ok y)
  | error (why why' : Refusal) : Agree alike (.error why) (.error why')

theorem Agree.bind {α β : Type} {alike : α → α → Prop} {alike' : β → β → Prop} {r₁ r₂ : Except Refusal α}
    {f₁ f₂ : α → Except Refusal β} (h : Agree alike r₁ r₂)
    (hf : ∀ x y, alike x y → Agree alike' (f₁ x) (f₂ y)) : Agree alike' (r₁ >>= f₁) (r₂ >>= f₂) := by
  cases h with
  | ok h => exact hf _ _ h
  | error why why' => exact .error why why'

def Lifetime.blur (d : DocumentId) (l : Lifetime P) : Lifetime P :=
  if l.id = d then { l with slot := { l.slot with latest := none } } else l

def Store.blur (d : DocumentId) (s : Store P) : Store P :=
  ⟨s.lifetimes.map (Lifetime.blur d)⟩

namespace Lifetime

variable (d : DocumentId) (l : Lifetime P)

@[simp] theorem blur_id : (l.blur d).id = l.id := by
  unfold blur
  split <;> rfl

@[simp] theorem blur_generation : (l.blur d).generation = l.generation := by
  unfold blur
  split <;> rfl

@[simp] theorem blur_version : (l.blur d).version = l.version := by
  unfold blur
  split <;> rfl

@[simp] theorem blur_isOpen : (l.blur d).isOpen = l.isOpen := by
  unfold blur
  split <;> rfl

@[simp] theorem blur_snapshot : (l.blur d).snapshot = l.snapshot := by
  unfold blur
  split <;> rfl

variable {d l}

theorem blur_of_ne (h : l.id ≠ d) : l.blur d = l :=
  if_neg h

theorem blur_latest (h : l.id = d) (latest : Option (Finding P)) :
    ({ l with slot := { l.slot with latest } } : Lifetime P).blur d = l.blur d := by
  simp [blur, h]

end Lifetime

namespace Store

variable {d : DocumentId} {s s₁ s₂ : Store P}

theorem find?_blur (s : Store P) (id : DocumentId) :
    (s.blur d).find? id = (s.find? id).map (Lifetime.blur d) := by
  simp only [find?, blur, List.find?_map]
  congr 2
  funext l
  simp

theorem firstOpen?_blur (s : Store P) (ids : List DocumentId) :
    (s.blur d).firstOpen? ids = s.firstOpen? ids := by
  induction ids with
  | nil => rfl
  | cons id ids ih =>
    simp only [firstOpen?, find?_blur]
    cases s.find? id with
    | none => exact ih
    | some l => simp

theorem blur_update {g : Nat} {f f' : Lifetime P → Lifetime P}
    (h : ∀ l ∈ s.lifetimes, l.generation = g → (f l).blur d = f' (l.blur d)) :
    (s.update g f).blur d = (s.blur d).update g f' := by
  simp only [blur, update, List.map_map]
  congr 1
  refine List.map_congr_left fun l hl => ?_
  by_cases hg : l.generation = g
  · simp [hg, h l hl hg]
  · simp [hg]

theorem blur_opened (h : s₁.blur d = s₂.blur d) (id : DocumentId) (text : String) :
    (⟨{ id, generation := s₁.lifetimes.length + 1, text } :: s₁.lifetimes⟩ : Store P).blur d =
      (⟨{ id, generation := s₂.lifetimes.length + 1, text } :: s₂.lifetimes⟩ : Store P).blur d := by
  simp only [blur, mk.injEq] at h
  have hl : s₁.lifetimes.length = s₂.lifetimes.length := by
    simpa using congrArg List.length h
  simp [blur, h, hl]

section Alike

variable (h : s₁.blur d = s₂.blur d)

include h

theorem find?_alike (id : DocumentId) :
    (s₁.find? id).map (Lifetime.blur d) = (s₂.find? id).map (Lifetime.blur d) := by
  rw [← find?_blur, ← find?_blur, h]

theorem get_alike (id : DocumentId) :
    Agree (fun l₁ l₂ : Lifetime P => l₁.blur d = l₂.blur d) (s₁.get id) (s₂.get id) := by
  have hf := find?_alike h id
  unfold get
  cases h₁ : s₁.find? id <;> cases h₂ : s₂.find? id <;> simp [h₁, h₂] at hf
  · exact .error _ _
  · exact .ok hf

theorem firstOpen?_alike (ids : List DocumentId) : s₁.firstOpen? ids = s₂.firstOpen? ids := by
  rw [← firstOpen?_blur (d := d) s₁, h, firstOpen?_blur]

theorem openDocument_alike (id : DocumentId) (text : String) :
    Agree (fun s₁' s₂' : Store P => s₁'.blur d = s₂'.blur d) (s₁.openDocument id text)
      (s₂.openDocument id text) := by
  have hf := find?_alike h id
  unfold openDocument
  cases h₁ : s₁.find? id <;> cases h₂ : s₂.find? id <;> simp [h₁, h₂] at hf
  · exact .ok (blur_opened h id text)
  · exact .error _ _

theorem update_alike {g : Nat} {f : Lifetime P → Lifetime P}
    (hf : ∀ l : Lifetime P, (f l).blur d = f (l.blur d)) :
    (s₁.update g f).blur d = (s₂.update g f).blur d := by
  rw [blur_update fun l _ _ => hf l, blur_update fun l _ _ => hf l, h]

theorem change_alike (id : DocumentId) (text : String) :
    Agree (fun r₁ r₂ : Store P × Version => r₁.1.blur d = r₂.1.blur d ∧ r₁.2 = r₂.2)
      (s₁.change id text) (s₂.change id text) := by
  refine (get_alike h id).bind fun l₁ l₂ hl => ?_
  have hg : l₁.generation = l₂.generation := by simpa using congrArg Lifetime.generation hl
  have hv : l₁.version = l₂.version := by simpa using congrArg Lifetime.version hl
  rw [hg, hv]
  refine .ok ⟨update_alike h fun l => ?_, rfl⟩
  by_cases hd : l.id = d <;> simp [Lifetime.blur, hd]

theorem close_alike (id : DocumentId) :
    Agree (fun r₁ r₂ : Store P × Nat => r₁.1.blur d = r₂.1.blur d ∧ r₁.2 = r₂.2)
      (s₁.close id) (s₂.close id) := by
  refine (get_alike h id).bind fun l₁ l₂ hl => ?_
  have hg : l₁.generation = l₂.generation := by simpa using congrArg Lifetime.generation hl
  rw [hg]
  refine .ok ⟨update_alike h fun l => ?_, rfl⟩
  by_cases hd : l.id = d <;> simp [Lifetime.blur, Slot.close, hd]

end Alike

theorem Valid.blur_publish (hv : s.Valid) {snap : Snapshot} (hs : snap.id = d) (payload : P) :
    (s.publish snap payload).1.blur d = s.blur d := by
  rcases hv.publish_cases snap payload with ⟨he,_⟩ | ⟨l,hl,_,_,he⟩
  · rw [he]
  · obtain ⟨hm,hid,_⟩ := find?_spec hl
    have hkept : (s.blur d).update l.generation id = s.blur d := by simp [Store.update]
    rw [he, ← hkept]
    refine blur_update fun x hx hg => ?_
    obtain rfl := hv.eq_of_generation hx hm hg
    exact Lifetime.blur_latest (hid.trans hs) _

theorem publish_alike (hv₁ : s₁.Valid) (hv₂ : s₂.Valid) (h : s₁.blur d = s₂.blur d) {snap : Snapshot}
    (hs : snap.id ≠ d) (payload : P) :
    (s₁.publish snap payload).1.blur d = (s₂.publish snap payload).1.blur d ∧
      (s₁.publish snap payload).2 = (s₂.publish snap payload).2 := by
  have hf : ∀ (s : Store P) (l : Lifetime P) (slot : Slot P), s.Valid → l ∈ s.lifetimes → l.id ≠ d →
      (s.update l.generation fun x => { x with slot }).blur d =
        (s.blur d).update l.generation fun x => { x with slot } := by
    intro s l slot hv hm hd
    refine blur_update fun x hx hg => ?_
    obtain rfl := hv.eq_of_generation hx hm hg
    rw [Lifetime.blur_of_ne hd]
    exact Lifetime.blur_of_ne hd
  have hl := find?_alike h snap.id
  unfold publish
  cases h₁ : s₁.find? snap.id <;> cases h₂ : s₂.find? snap.id <;> simp [h₁, h₂] at hl
  · exact ⟨h,rfl⟩
  · obtain ⟨hm₁,hid₁,_⟩ := find?_spec h₁
    obtain ⟨hm₂,hid₂,_⟩ := find?_spec h₂
    rw [Lifetime.blur_of_ne (hid₁ ▸ hs), Lifetime.blur_of_ne (hid₂ ▸ hs)] at hl
    subst hl
    dsimp only
    split
    · exact ⟨by rw [hf s₁ _ _ hv₁ hm₁ (hid₁ ▸ hs), hf s₂ _ _ hv₂ hm₂ (hid₂ ▸ hs), h], rfl⟩
    · exact ⟨h,rfl⟩

end Store

/-!
What is seen of what goes on: the worker, its analyses and the calls that have not acted yet, but not those
who only wait. Of a verdict on that one document it is seen only that there is one.
-/

def Activity.isBystander : Activity P → Bool
  | .wait _ _ => true
  | .watch _ => true
  | .shutdown true => true
  | _ => false

def Stage.blur (d : DocumentId) : Stage P → Stage P
  | .judged s verdict => .judged s (if s.id = d then .panicked else verdict)
  | stage => stage

theorem Stage.blur_cases {d : DocumentId} {stage₁ stage₂ : Stage P} (h : stage₁.blur d = stage₂.blur d) :
    (stage₁ = stage₂ ∧ stage₁.verdict? = none) ∨ ∃ s verdict₁ verdict₂, stage₁ = .judged s verdict₁ ∧
      stage₂ = .judged s verdict₂ ∧ (s.id ≠ d → verdict₁ = verdict₂) := by
  cases stage₁ <;> cases stage₂ <;> simp [blur] at h
  · exact Or.inl ⟨rfl,rfl⟩
  · exact Or.inl ⟨by rw [h], rfl⟩
  · obtain ⟨rfl,hv⟩ := h
    refine Or.inr ⟨_, _, _, rfl, rfl, fun hd => ?_⟩
    rwa [if_neg hd, if_neg hd] at hv

def Activity.blur (d : DocumentId) : Activity P → Activity P
  | .loop stage => .loop (stage.blur d)
  | a => a

def Activity.seen? (d : DocumentId) (a : Activity P) : Option (Activity P) :=
  if a.isBystander then none else some (a.blur d)

namespace Engine

def seen? (d : DocumentId) (e : Engine P) (t : Ticket) : Option (Activity P) :=
  (e.activity? t).bind (Activity.seen? d)

structure Alike (d : DocumentId) (e₁ e₂ : Engine P) : Prop where
  store : e₁.store.blur d = e₂.store.blur d
  queue : e₁.queue = e₂.queue
  bell : e₁.bell = e₂.bell
  gate : e₁.gate = e₂.gate
  calls : e₁.calls = e₂.calls
  tickets : e₁.tickets = e₂.tickets
  stopped : e₁.stopped = e₂.stopped
  seen : ∀ t, e₁.seen? d t = e₂.seen? d t
  ready : ∀ t a, e₁.seen? d t = some a → (t ∈ e₁.ready ↔ t ∈ e₂.ready)

variable {d : DocumentId} {e e₁ e₂ e₃ : Engine P} {t : Ticket}

namespace Alike

theorem refl (d : DocumentId) (e : Engine P) : e.Alike d e :=
  ⟨rfl,rfl,rfl,rfl,rfl,rfl,rfl,fun _ => rfl,fun _ _ _ => Iff.rfl⟩

theorem symm (h : e₁.Alike d e₂) : e₂.Alike d e₁ where
  store := h.store.symm
  queue := h.queue.symm
  bell := h.bell.symm
  gate := h.gate.symm
  calls := h.calls.symm
  tickets := h.tickets.symm
  stopped := h.stopped.symm
  seen t := (h.seen t).symm
  ready t a ha := (h.ready t a ((h.seen t).trans ha)).symm

theorem trans (h : e₁.Alike d e₂) (k : e₂.Alike d e₃) : e₁.Alike d e₃ where
  store := h.store.trans k.store
  queue := h.queue.trans k.queue
  bell := h.bell.trans k.bell
  gate := h.gate.trans k.gate
  calls := h.calls.trans k.calls
  tickets := h.tickets.trans k.tickets
  stopped := h.stopped.trans k.stopped
  seen t := (h.seen t).trans (k.seen t)
  ready t a ha := (h.ready t a ha).trans (k.ready t a ((h.seen t).symm.trans ha))

end Alike

theorem seen?_remove (e : Engine P) (t u : Ticket) :
    (e.remove t).seen? d u = if u = t then none else e.seen? d u := by
  unfold seen?
  rw [activity?_remove]
  split <;> rfl

theorem seen?_set {a b : Activity P} (h : e.activity? t = some b) (u : Ticket) :
    (e.set t a).seen? d u = if u = t then a.seen? d else e.seen? d u := by
  unfold seen?
  rw [activity?_set]
  split
  · rename_i hu
    rw [hu, h]
    rfl
  · rfl

theorem seen?_start (h : e.activity? e.tickets = none) (a : Activity P) (u : Ticket) :
    (e.start a).seen? d u = if u = e.tickets then a.seen? d else e.seen? d u := by
  unfold seen?
  rw [activity?_start]
  split
  · rename_i hu
    rw [hu, h]
    rfl
  · rw [Option.or_none]

theorem free_set {u : Ticket} (h : e.activity? u = none) (t : Ticket) (a : Activity P) :
    (e.set t a).activity? u = none := by
  rw [activity?_set, h]
  split <;> rfl

theorem activity?_of_seen {b : Activity P} (h : e.seen? d t = some b) :
    ∃ a, e.activity? t = some a ∧ a.seen? d = some b :=
  Option.bind_eq_some_iff.mp h

theorem unseen_of_mem (hn : (e.activities.map (·.1)).Nodup) {a : Activity P}
    (h : (t,a) ∈ e.activities) (ha : a.isBystander = true) : e.seen? d t = none := by
  rw [seen?, activity?_of_mem hn h, Option.bind_some, Activity.seen?, if_pos ha]

namespace Alike

section Two

variable (h : e₁.Alike d e₂)

include h

theorem remove (t : Ticket) : (e₁.remove t).Alike d (e₂.remove t) where
  store := h.store
  queue := h.queue
  bell := h.bell
  gate := h.gate
  calls := h.calls
  tickets := h.tickets
  stopped := h.stopped
  seen u := by rw [seen?_remove, seen?_remove, h.seen u]
  ready u a hu := by
    rw [seen?_remove] at hu
    split at hu
    · simp at hu
    · exact h.ready u a hu

theorem finish (t : Ticket) (x₁ x₂ : Ending P) : (e₁.finish t x₁).Alike d (e₂.finish t x₂) :=
  { h.remove t with }

theorem set {a₁ a₂ b : Activity P} (hb : e₁.seen? d t = some b) (ha : a₁.seen? d = a₂.seen? d) :
    (e₁.set t a₁).Alike d (e₂.set t a₂) := by
  obtain ⟨_,h₁,_⟩ := activity?_of_seen hb
  obtain ⟨_,h₂,_⟩ := activity?_of_seen ((h.seen t).symm.trans hb)
  refine { h with seen := fun u => ?_, ready := fun u a hu => ?_ }
  · rw [seen?_set h₁, seen?_set h₂, ha, h.seen u]
  · rw [seen?_set h₁] at hu
    split at hu
    · rename_i hut
      exact hut ▸ h.ready t b hb
    · exact h.ready u a hu

theorem start (h₁ : e₁.activity? e₁.tickets = none) (h₂ : e₂.activity? e₂.tickets = none)
    (a : Activity P) : (e₁.start a).Alike d (e₂.start a) where
  store := h.store
  queue := h.queue
  bell := h.bell
  gate := h.gate
  calls := h.calls
  tickets := congrArg (· + 1) h.tickets
  stopped := h.stopped
  seen u := by rw [seen?_start h₁, seen?_start h₂, h.tickets, h.seen u]
  ready u b hu := by
    simp only [Engine.start, List.mem_append, List.mem_singleton, h.tickets]
    rw [seen?_start h₁, h.tickets] at hu
    by_cases hut : u = e₂.tickets
    · simp only [hut, or_true]
    · rw [if_neg hut] at hu
      rw [h.ready u b hu]

theorem wakeAll {ts₁ ts₂ : List Ticket} (hts : ∀ t a, e₁.seen? d t = some a → (t ∈ ts₁ ↔ t ∈ ts₂)) :
    (e₁.wakeAll ts₁).Alike d (e₂.wakeAll ts₂) := by
  rw [wakeAll_eq, wakeAll_eq]
  refine { h with ready := fun t a ht => ?_ }
  have ht : e₁.seen? d t = some a := ht
  simp only [mem_woken, h.ready t a ht, hts t a ht]

theorem wakeUnseen {ts₁ ts₂ : List Ticket} (h₁ : ∀ t ∈ ts₁, e₁.seen? d t = none)
    (h₂ : ∀ t ∈ ts₂, e₂.seen? d t = none) : (e₁.wakeAll ts₁).Alike d (e₂.wakeAll ts₂) := by
  refine h.wakeAll fun t a ht => ⟨fun ht₁ => ?_, fun ht₂ => ?_⟩
  · simp [h₁ t ht₁] at ht
  · simp [h.seen t, h₂ t ht₂] at ht

theorem wakeSome (t : Option Ticket) : (e₁.wakeSome t).Alike d (e₂.wakeSome t) := by
  cases t with
  | none => exact h
  | some t => exact h.wakeAll fun _ _ _ => (Iff.rfl : _ ↔ _ ∈ [t])

theorem ring : e₁.ring.Alike d e₂.ring := by
  unfold Engine.ring
  rw [h.bell]
  refine Alike.wakeSome ?_ _
  exact { h with bell := rfl }

theorem enqueue (id : DocumentId) : (e₁.enqueue id).1.Alike d (e₂.enqueue id).1 := by
  unfold Engine.enqueue
  rw [h.queue]
  dsimp only
  split
  · refine Alike.ring ?_
    exact { h with queue := rfl }
  · exact { h with queue := rfl }

end Two

end Alike

theorem unseen_of_filterMap {f : Ticket × Activity P → Option Ticket}
    (hn : (e.activities.map (·.1)).Nodup) (hf : ∀ p u, f p = some u → u = p.1 ∧ p.2.isBystander = true) :
    ∀ u ∈ e.activities.filterMap f, e.seen? d u = none := by
  intro u hu
  obtain ⟨p,hp,hfp⟩ := List.mem_filterMap.mp hu
  obtain ⟨rfl,hw⟩ := hf p u hfp
  exact unseen_of_mem hn hp hw

theorem unseen_watches (hn : (e.activities.map (·.1)).Nodup) :
    ∀ u ∈ e.watches, e.seen? d u = none := by
  refine unseen_of_filterMap hn fun p u hu => ?_
  obtain ⟨t,a⟩ := p
  cases a <;> simp at hu
  exact ⟨hu.symm,rfl⟩

theorem unseen_holders (hn : (e.activities.map (·.1)).Nodup) (token : Token) :
    ∀ u ∈ e.holders token, e.seen? d u = none := by
  refine unseen_of_filterMap hn fun p u hu => ?_
  obtain ⟨t,a⟩ := p
  cases a <;> simp at hu
  exact ⟨hu.2.symm,rfl⟩

theorem unseen_closers (hn : (e.activities.map (·.1)).Nodup) :
    ∀ u ∈ e.closers, e.seen? d u = none := by
  refine unseen_of_filterMap hn fun p u hu => ?_
  obtain ⟨t,a⟩ := p
  cases a with
  | shutdown begun =>
    cases begun <;> simp at hu
    exact ⟨hu.symm,rfl⟩
  | _ => simp at hu

theorem unseen_overdue (hn : (e.activities.map (·.1)).Nodup) :
    ∀ u ∈ e.overdue, e.seen? d u = none := by
  intro u hu
  obtain ⟨⟨deadline,_⟩,hp,rfl⟩ := List.mem_map.mp hu
  obtain ⟨⟨t,a⟩,hm,ha⟩ := List.mem_filterMap.mp (List.mem_mergeSort.mp hp)
  cases a <;> simp at ha
  obtain ⟨_,_,rfl⟩ := ha
  exact unseen_of_mem hn hm rfl

theorem Tidy.free {x : Option Ticket} (h : e.Tidy x) : e.activity? e.tickets = none := by
  cases hu : e.activity? e.tickets with
  | none => rfl
  | some a => exact absurd (h.numbered _ a hu) (Nat.lt_irrefl _)

theorem Tidy.unseen_watchers {x : Option Ticket} (h : e.Tidy x) (g : Nat) : ∀ u ∈ e.watchers g, e.seen? d u = none := by
  intro u hu
  rw [Engine.watchers, h.lines, List.filter_nil, List.filterMap_nil, List.nil_append] at hu
  revert u
  refine unseen_of_filterMap h.once fun p u hu => ?_
  obtain ⟨t,a⟩ := p
  cases a <;> simp at hu
  exact ⟨hu.2.symm,rfl⟩

end Engine

end LiveAnalysis
