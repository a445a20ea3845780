import LiveAnalysis.Document.Store

namespace LiveAnalysis

variable {P : Type}

namespace Version

theorem le_def {v w : Version} : v ≤ w ↔ v.number ≤ w.number := Iff.rfl

theorem not_lt {v w : Version} : ¬ v < w ↔ w ≤ v := Nat.not_lt

theorem le_refl (v : Version) : v ≤ v := Nat.le_refl _

theorem le_trans {u v w : Version} (h : u ≤ v) (k : v ≤ w) : u ≤ w := Nat.le_trans h k

theorem le_antisymm {v w : Version} (h : v ≤ w) (k : w ≤ v) : v = w := by
  cases v; cases w
  exact congrArg Version.mk (Nat.le_antisymm h k)

theorem lt_next (v : Version) : v < v.next := Nat.lt_succ_self _

theorem not_le_of_lt {v w : Version} (h : v < w) : ¬ w ≤ v := Nat.not_le_of_lt h

end Version

namespace Slot

theorem publish_cases (s : Slot P) (f : Finding P) :
    (s.closed = true ∧ s.publish f = (s, .closed)) ∨
    (s.closed = false ∧ (∃ old, s.latest = some old ∧ f.version < old.version) ∧
      s.publish f = (s, .superseded)) ∨
    (s.closed = false ∧ (∀ old, s.latest = some old → old.version ≤ f.version) ∧
      s.publish f = ({ s with latest := some f }, .stored)) := by
  unfold publish
  cases hc : s.closed with
  | true => simp
  | false =>
    cases hl : s.latest with
    | none => simp
    | some old =>
      by_cases hv : f.version < old.version
      · simp [hv]
      · simp [hv, Version.not_lt.mp hv]

theorem satisfying?_eq_some {s : Slot P} {m : Version} {f : Finding P} :
    s.satisfying? m = some f ↔ s.latest = some f ∧ m ≤ f.version := by
  simp [satisfying?, Option.filter_eq_some_iff]

theorem satisfying?_eq_none {s : Slot P} {m : Version} :
    s.satisfying? m = none ↔ ∀ f, s.latest = some f → ¬ m ≤ f.version := by
  simp [satisfying?, Option.filter_eq_none_iff]

theorem answer?_found {s : Slot P} {f : Finding P} (h : s.latest = some f) {id : DocumentId}
    {atLeast : Version} (hv : atLeast ≤ f.version) : s.answer? id atLeast = some (.ok f) := by
  rw [answer?, satisfying?_eq_some.mpr ⟨h,hv⟩]

theorem answer?_closed {s : Slot P} (h : s.closed = true) (id : DocumentId) {atLeast : Version}
    (hv : ∀ f, s.latest = some f → f.version < atLeast) :
    s.answer? id atLeast = some (.error (.documentClosed id)) := by
  have hn := satisfying?_eq_none.mpr fun f hf => Version.not_le_of_lt (hv f hf)
  rw [answer?, hn, h]
  rfl

theorem answer?_open {s : Slot P} (h : s.closed = false) (id : DocumentId) {atLeast : Version}
    (hv : ∀ f, s.latest = some f → f.version < atLeast) : s.answer? id atLeast = none := by
  have hn := satisfying?_eq_none.mpr fun f hf => Version.not_le_of_lt (hv f hf)
  rw [answer?, hn, h]
  rfl

theorem answer?_cases (s : Slot P) (id : DocumentId) (m : Version) :
    (∃ f, s.latest = some f ∧ m ≤ f.version ∧ s.answer? id m = some (.ok f)) ∨
    (s.closed = true ∧ (∀ f, s.latest = some f → f.version < m) ∧
      s.answer? id m = some (.error (.documentClosed id))) ∨
    (s.closed = false ∧ (∀ f, s.latest = some f → f.version < m) ∧ s.answer? id m = none) := by
  cases hs : s.satisfying? m with
  | some f =>
    obtain ⟨hl,hv⟩ := satisfying?_eq_some.mp hs
    exact Or.inl ⟨f, hl, hv, answer?_found hl hv⟩
  | none =>
    have hv : ∀ f, s.latest = some f → f.version < m := fun f hf =>
      Nat.lt_of_not_le (satisfying?_eq_none.mp hs f hf)
    cases hc : s.closed with
    | true => exact Or.inr (Or.inl ⟨rfl, hv, answer?_closed hc id hv⟩)
    | false => exact Or.inr (Or.inr ⟨rfl, hv, answer?_open hc id hv⟩)

end Slot

structure Lifetime.Evolves (l l' : Lifetime P) : Prop where
  id : l'.id = l.id
  generation : l'.generation = l.generation
  version : l.version ≤ l'.version
  text : l'.version = l.version → l'.text = l.text
  closed : l.isOpen = false → l' = l
  latest : ∀ f, l.slot.latest = some f → ∃ f', l'.slot.latest = some f' ∧ f.version ≤ f'.version

namespace Lifetime

theorem Evolves.refl (l : Lifetime P) : l.Evolves l :=
  ⟨rfl, rfl, Version.le_refl _, fun _ => rfl, fun _ => rfl, fun f h => ⟨f, h, Version.le_refl _⟩⟩

theorem Evolves.trans {l₁ l₂ l₃ : Lifetime P} (h : l₁.Evolves l₂) (k : l₂.Evolves l₃) :
    l₁.Evolves l₃ where
  id := k.id.trans h.id
  generation := k.generation.trans h.generation
  version := Version.le_trans h.version k.version
  text hv := by
    have h12 : l₂.version = l₁.version := by
      apply Version.le_antisymm _ h.version
      rw [← hv]
      exact k.version
    rw [k.text (hv.trans h12.symm), h.text h12]
  closed hc := by
    have h12 := h.closed hc
    subst h12
    exact k.closed hc
  latest f hf := by
    obtain ⟨f₂, hf₂, hle⟩ := h.latest f hf
    obtain ⟨f₃, hf₃, hle'⟩ := k.latest f₂ hf₂
    exact ⟨f₃, hf₃, Version.le_trans hle hle'⟩

theorem Evolves.isOpen {l l' : Lifetime P} (h : l.Evolves l') (ho : l'.isOpen = true) :
    l.isOpen = true := by
  cases hl : l.isOpen with
  | true => rfl
  | false =>
    rw [h.closed hl, hl] at ho
    exact ho

theorem evolves_change (l : Lifetime P) (text : String) (ho : l.isOpen = true) :
    l.Evolves { l with text, version := l.version.next } where
  id := rfl
  generation := rfl
  version := Nat.le_of_lt l.version.lt_next
  text h := absurd (Version.le_def.mpr (Nat.le_of_eq (congrArg Version.number h)))
    (Version.not_le_of_lt l.version.lt_next)
  closed h := by simp [h] at ho
  latest f h := ⟨f, h, Version.le_refl _⟩

theorem evolves_close (l : Lifetime P) (ho : l.isOpen = true) :
    l.Evolves { l with slot := l.slot.close } where
  id := rfl
  generation := rfl
  version := Version.le_refl _
  text _ := rfl
  closed h := by simp [h] at ho
  latest f h := ⟨f, h, Version.le_refl _⟩

theorem evolves_store (l : Lifetime P) (f : Finding P) (ho : l.isOpen = true)
    (hf : ∀ old, l.slot.latest = some old → old.version ≤ f.version) :
    l.Evolves { l with slot := { l.slot with latest := some f } } where
  id := rfl
  generation := rfl
  version := Version.le_refl _
  text _ := rfl
  closed h := by simp [h] at ho
  latest old h := ⟨f, rfl, hf old h⟩

end Lifetime

structure Store.Valid (s : Store P) : Prop where
  bounded : ∀ l ∈ s.lifetimes, 0 < l.generation ∧ l.generation ≤ s.lifetimes.length
  descending : s.lifetimes.Pairwise fun a b => b.generation < a.generation
  single : ∀ l ∈ s.lifetimes, ∀ l' ∈ s.lifetimes, l.isOpen = true → l'.isOpen = true →
    l.id = l'.id → l = l'

structure Store.Grows (s s' : Store P) : Prop where
  kept : ∀ l ∈ s.lifetimes, ∃ l' ∈ s'.lifetimes, l.Evolves l'

structure Store.Step (s s' : Store P) : Prop extends Store.Grows s s' where
  came : ∀ l' ∈ s'.lifetimes, (∃ l ∈ s.lifetimes, l.Evolves l') ∨
    (s.lifetimes.length < l'.generation ∧ l'.version = .baseline ∧ l'.slot = {})

namespace Store

theorem valid_empty : (({} : Store P)).Valid :=
  ⟨by simp, by simp, by simp⟩

theorem Valid.eq_of_generation {s : Store P} (h : s.Valid) {l l' : Lifetime P}
    (hl : l ∈ s.lifetimes) (hl' : l' ∈ s.lifetimes) (hg : l.generation = l'.generation) : l = l' := by
  have hn : ∀ xs : List (Lifetime P), xs.Pairwise (fun a b => b.generation < a.generation) →
      l ∈ xs → l' ∈ xs → l = l' := by
    intro xs
    induction xs with
    | nil => intro _ h; simp at h
    | cons x xs ih =>
      intro hp hx hx'
      obtain ⟨hhead,htail⟩ := List.pairwise_cons.mp hp
      rcases List.mem_cons.mp hx with ha | ha
      · rcases List.mem_cons.mp hx' with hb | hb
        · exact ha.trans hb.symm
        · have := hhead l' hb
          rw [← ha] at this
          omega
      · rcases List.mem_cons.mp hx' with hb | hb
        · have := hhead l ha
          rw [← hb] at this
          omega
        · exact ih htail ha hb
  exact hn s.lifetimes h.descending hl hl'

theorem find?_spec {s : Store P} {id : DocumentId} {l : Lifetime P} (h : s.find? id = some l) :
    l ∈ s.lifetimes ∧ l.id = id ∧ l.isOpen = true := by
  have hp := List.find?_some h
  simp only [Bool.and_eq_true, decide_eq_true_eq] at hp
  exact ⟨List.mem_of_find?_eq_some h, hp⟩

theorem find?_eq_none {s : Store P} {id : DocumentId} :
    s.find? id = none ↔ ∀ l ∈ s.lifetimes, l.isOpen = true → l.id ≠ id := by
  simp only [find?, List.find?_eq_none, Bool.and_eq_true, decide_eq_true_eq, not_and]
  exact ⟨fun h l hl ho he => h l hl he ho, fun h l hl he ho => h l hl ho he⟩

theorem Valid.find?_eq {s : Store P} (h : s.Valid) {l : Lifetime P} (hl : l ∈ s.lifetimes)
    (ho : l.isOpen = true) : s.find? l.id = some l := by
  cases hf : s.find? l.id with
  | none => exact absurd rfl (find?_eq_none.mp hf l hl ho)
  | some l' =>
    obtain ⟨hl',hid,ho'⟩ := find?_spec hf
    rw [h.single l' hl' l hl ho' ho hid]

theorem ofGeneration?_spec {s : Store P} {g : Nat} {l : Lifetime P}
    (h : s.ofGeneration? g = some l) : l ∈ s.lifetimes ∧ l.generation = g :=
  ⟨List.mem_of_find?_eq_some h, by simpa using List.find?_some h⟩

theorem Valid.ofGeneration?_eq {s : Store P} (h : s.Valid) {l : Lifetime P}
    (hl : l ∈ s.lifetimes) : s.ofGeneration? l.generation = some l := by
  cases hf : s.ofGeneration? l.generation with
  | none => simp [ofGeneration?, List.find?_eq_none] at hf; exact absurd rfl (hf l hl)
  | some l' =>
    obtain ⟨hl',hg⟩ := ofGeneration?_spec hf
    rw [h.eq_of_generation hl' hl hg]

theorem contains_iff {s : Store P} {id : DocumentId} :
    s.contains id = true ↔ ∃ l, s.find? id = some l := by
  simp [contains, Option.isSome_iff_exists]

theorem mem_openLifetimes {s : Store P} {l : Lifetime P} :
    l ∈ s.openLifetimes ↔ l ∈ s.lifetimes ∧ l.isOpen = true := by
  simp [openLifetimes]

theorem firstOpen?_some {s : Store P} {ids rest : List DocumentId} {snap : Snapshot}
    (h : s.firstOpen? ids = some (snap,rest)) : ∃ skipped l, ids = skipped ++ l.id :: rest ∧
      s.find? l.id = some l ∧ snap = l.snapshot ∧ ∀ id ∈ skipped, s.find? id = none := by
  induction ids with
  | nil => simp [firstOpen?] at h
  | cons id ids ih =>
    simp only [firstOpen?] at h
    split at h
    · rename_i l hl
      cases h
      have hid := (find?_spec hl).2.1
      exact ⟨[], l, by rw [hid]; rfl, hid ▸ hl, rfl, by simp⟩
    · rename_i hn
      obtain ⟨skipped,l,rfl,hl,hs,hskip⟩ := ih h
      refine ⟨id :: skipped, l, rfl, hl, hs, ?_⟩
      intro x hx
      rcases List.mem_cons.mp hx with rfl | hx
      · exact hn
      · exact hskip x hx

theorem firstOpen?_none {s : Store P} {ids : List DocumentId} (h : s.firstOpen? ids = none) :
    ∀ id ∈ ids, s.find? id = none := by
  induction ids with
  | nil => simp
  | cons id ids ih =>
    simp only [firstOpen?] at h
    split at h
    · simp at h
    · rename_i hn
      intro x hx
      rcases List.mem_cons.mp hx with rfl | hx
      · exact hn
      · exact ih h x hx

theorem mem_update {s : Store P} {g : Nat} {f : Lifetime P → Lifetime P} {l' : Lifetime P} :
    l' ∈ (s.update g f).lifetimes ↔
      ∃ l ∈ s.lifetimes, (if l.generation = g then f l else l) = l' := by
  simp [update]

theorem Valid.mem_update {s : Store P} (h : s.Valid) {l : Lifetime P} (hl : l ∈ s.lifetimes)
    {f : Lifetime P → Lifetime P} {l' : Lifetime P} :
    l' ∈ (s.update l.generation f).lifetimes ↔
      l' = f l ∨ (l' ∈ s.lifetimes ∧ l'.generation ≠ l.generation) := by
  rw [Store.mem_update]
  constructor
  · rintro ⟨x,hx,rfl⟩
    by_cases hg : x.generation = l.generation
    · rw [if_pos hg, h.eq_of_generation hx hl hg]
      exact Or.inl rfl
    · rw [if_neg hg]
      exact Or.inr ⟨hx,hg⟩
  · rintro (rfl | ⟨hx,hg⟩)
    · exact ⟨l,hl,if_pos rfl⟩
    · exact ⟨l',hx,if_neg hg⟩

theorem ofGeneration?_update (s : Store P) (g g' : Nat) (f : Lifetime P → Lifetime P)
    (hf : ∀ x, (f x).generation = x.generation) :
    (s.update g f).ofGeneration? g' =
      (s.ofGeneration? g').map fun l => if l.generation = g then f l else l := by
  have hp : ((fun l : Lifetime P => decide (l.generation = g')) ∘
      fun l => if l.generation = g then f l else l) = fun l => decide (l.generation = g') := by
    funext l
    by_cases hl : l.generation = g <;> simp [hl, hf]
  simp only [ofGeneration?, update, List.find?_map, hp]

theorem Valid.update {s : Store P} (h : s.Valid) {l : Lifetime P} (hl : l ∈ s.lifetimes)
    {f : Lifetime P → Lifetime P} (hf : ∀ x, (f x).generation = x.generation)
    (he : l.Evolves (f l)) : (s.update l.generation f).Valid where
  bounded l' hl' := by
    have hlen : (s.update l.generation f).lifetimes.length = s.lifetimes.length := by simp [Store.update]
    rw [hlen]
    rcases (h.mem_update hl).mp hl' with rfl | ⟨hx,_⟩
    · rw [he.generation]
      exact h.bounded l hl
    · exact h.bounded l' hx
  descending := by
    have hg : ∀ x : Lifetime P,
        (if x.generation = l.generation then f x else x).generation = x.generation := by
      intro x
      split
      · exact hf x
      · rfl
    simpa [Store.update, List.pairwise_map, hg] using h.descending
  single a ha b hb hoa hob hid := by
    rcases (h.mem_update hl).mp ha with rfl | ⟨ha,hga⟩
    · rcases (h.mem_update hl).mp hb with rfl | ⟨hb,hgb⟩
      · rfl
      · have := h.single l hl b hb (he.isOpen hoa) hob (he.id.symm.trans hid)
        exact absurd (congrArg Lifetime.generation this.symm) hgb
    · rcases (h.mem_update hl).mp hb with rfl | ⟨hb,hgb⟩
      · have := h.single a ha l hl hoa (he.isOpen hob) (hid.trans he.id)
        exact absurd (congrArg Lifetime.generation this) hga
      · exact h.single a ha b hb hoa hob hid

theorem Valid.step_update {s : Store P} (h : s.Valid) {l : Lifetime P} (hl : l ∈ s.lifetimes)
    {f : Lifetime P → Lifetime P} (he : l.Evolves (f l)) : s.Step (s.update l.generation f) where
  kept x hx := by
    by_cases hg : x.generation = l.generation
    · rw [h.eq_of_generation hx hl hg]
      exact ⟨f l, (h.mem_update hl).mpr (Or.inl rfl), he⟩
    · exact ⟨x, (h.mem_update hl).mpr (Or.inr ⟨hx,hg⟩), .refl x⟩
  came x hx := by
    rcases (h.mem_update hl).mp hx with rfl | ⟨hx,_⟩
    · exact Or.inl ⟨l,hl,he⟩
    · exact Or.inl ⟨x,hx,.refl x⟩

theorem Grows.refl (s : Store P) : s.Grows s :=
  ⟨fun l h => ⟨l,h,.refl l⟩⟩

theorem Grows.trans {s₁ s₂ s₃ : Store P} (h : s₁.Grows s₂) (k : s₂.Grows s₃) : s₁.Grows s₃ := by
  constructor
  intro l hl
  obtain ⟨l₂,hl₂,he⟩ := h.kept l hl
  obtain ⟨l₃,hl₃,he'⟩ := k.kept l₂ hl₂
  exact ⟨l₃,hl₃,he.trans he'⟩

theorem Step.refl (s : Store P) : s.Step s :=
  ⟨.refl s, fun l h => Or.inl ⟨l,h,.refl l⟩⟩

theorem Grows.ofGeneration? {s s' : Store P} (h : s.Grows s') (hv : s'.Valid) {g : Nat}
    {l : Lifetime P} (hl : s.ofGeneration? g = some l) :
    ∃ l', s'.ofGeneration? g = some l' ∧ l.Evolves l' := by
  obtain ⟨hm,rfl⟩ := ofGeneration?_spec hl
  obtain ⟨l',hl',he⟩ := h.kept l hm
  have := hv.ofGeneration?_eq hl'
  rw [he.generation] at this
  exact ⟨l',this,he⟩

/-! What the operations of a store do, where `p` tells the findings that may be published. -/

inductive Change (p : Snapshot → P → Prop) (s : Store P) : Store P → Prop where
  | same : Change p s s
  | opened (id : DocumentId) (text : String) (h : s.find? id = none) :
    Change p s ⟨{ id, generation := s.lifetimes.length + 1, text } :: s.lifetimes⟩
  | changed (l : Lifetime P) (text : String) (h : s.find? l.id = some l) :
    Change p s (s.update l.generation fun x => { x with text, version := l.version.next })
  | closed (l : Lifetime P) (h : s.find? l.id = some l) :
    Change p s (s.update l.generation fun x => { x with slot := x.slot.close })
  | published (l : Lifetime P) (snap : Snapshot) (payload : P) (hp : p snap payload)
    (h : s.find? snap.id = some l) (hg : l.generation = snap.generation)
    (hv : ∀ old, l.slot.latest = some old → old.version ≤ snap.version) :
    Change p s (s.update l.generation fun x =>
      { x with slot := { l.slot with latest := some ⟨snap.id, snap.version, payload⟩ } })

theorem get_ok {s : Store P} {id : DocumentId} {l : Lifetime P} :
    s.get id = .ok l ↔ s.find? id = some l := by
  unfold get
  cases s.find? id <;> simp

theorem openDocument_ok {s s' : Store P} {id : DocumentId} {text : String} :
    s.openDocument id text = .ok s' ↔ s.find? id = none ∧
      s' = ⟨{ id, generation := s.lifetimes.length + 1, text } :: s.lifetimes⟩ := by
  unfold openDocument
  cases s.find? id <;> simp [eq_comm]

theorem change_ok {s s' : Store P} {id : DocumentId} {text : String} {v : Version} :
    s.change id text = .ok (s',v) ↔ ∃ l, s.find? id = some l ∧ v = l.version.next ∧
      s' = s.update l.generation fun x => { x with text, version := l.version.next } := by
  unfold change get
  cases s.find? id with
  | none => simp [bind, Except.bind]
  | some l => simp [bind, Except.bind, pure, Except.pure, eq_comm, and_comm]

theorem close_ok {s s' : Store P} {id : DocumentId} {g : Nat} :
    s.close id = .ok (s',g) ↔ ∃ l, s.find? id = some l ∧ g = l.generation ∧
      s' = s.update l.generation fun x => { x with slot := x.slot.close } := by
  unfold close get
  cases s.find? id with
  | none => simp [bind, Except.bind]
  | some l => simp [bind, Except.bind, pure, Except.pure, eq_comm, and_comm]

theorem Valid.update_self {s : Store P} (h : s.Valid) {l : Lifetime P} (hl : l ∈ s.lifetimes)
    {f : Lifetime P → Lifetime P} (hf : f l = l) : s.update l.generation f = s := by
  have hx : ∀ x ∈ s.lifetimes, (if x.generation = l.generation then f x else x) = x := by
    intro x hx
    by_cases hg : x.generation = l.generation
    · rw [if_pos hg, h.eq_of_generation hx hl hg, hf]
    · exact if_neg hg
  cases s with
  | mk lifetimes =>
    simp only [Store.update, mk.injEq]
    exact (List.map_congr_left hx).trans (List.map_id' lifetimes)

theorem Valid.publish_cases {s : Store P} (h : s.Valid) (snap : Snapshot) (payload : P) :
    ((s.publish snap payload).1 = s ∧ (s.publish snap payload).2 ≠ .stored ∧
      ∀ l, s.find? snap.id = some l → l.generation = snap.generation →
        ∃ old, l.slot.latest = some old ∧ snap.version < old.version) ∨
    ∃ l, s.find? snap.id = some l ∧ l.generation = snap.generation ∧
      (∀ old, l.slot.latest = some old → old.version ≤ snap.version) ∧
      s.publish snap payload = (s.update l.generation fun x =>
        { x with slot := { l.slot with latest := some ⟨snap.id, snap.version, payload⟩ } }, .stored) := by
  unfold publish
  cases hf : s.find? snap.id with
  | none => simp
  | some l =>
    obtain ⟨hl,_,ho⟩ := find?_spec hf
    by_cases hg : l.generation = snap.generation
    · rcases l.slot.publish_cases ⟨snap.id, snap.version, payload⟩ with
        ⟨hc,_⟩ | ⟨_,⟨old,hold,hlt⟩,hp⟩ | ⟨_,hle,hp⟩
      · simp [Lifetime.isOpen, hc] at ho
      · left
        have hs : s.update l.generation (fun x => { x with slot := l.slot }) = s :=
          h.update_self hl rfl
        simp only [hg, if_true, hp]
        rw [← hg, hs]
        refine ⟨rfl, by simp, ?_⟩
        intro l' hl' _
        cases hl'
        exact ⟨old,hold,hlt⟩
      · right
        exact ⟨l,rfl,hg,hle,by simp [hg,hp]⟩
    · left
      simp only [hg, if_false]
      refine ⟨trivial, by simp, ?_⟩
      intro l' hl' hg'
      cases hl'
      exact absurd hg' hg

theorem Valid.publish_change {s : Store P} (h : s.Valid) {p : Snapshot → P → Prop}
    {snap : Snapshot} {payload : P} (hp : p snap payload) :
    Change p s (s.publish snap payload).1 := by
  rcases h.publish_cases snap payload with ⟨he,_⟩ | ⟨l,hf,hg,hv,he⟩
  · rw [he]
    exact .same
  · rw [he]
    exact .published l snap payload hp hf hg hv

variable {p : Snapshot → P → Prop}

theorem openDocument_change {s s' : Store P} {id : DocumentId} {text : String}
    (h : s.openDocument id text = .ok s') : Change p s s' := by
  obtain ⟨hf,rfl⟩ := openDocument_ok.mp h
  exact .opened id text hf

theorem change_change {s s' : Store P} {id : DocumentId} {text : String} {v : Version}
    (h : s.change id text = .ok (s',v)) : Change p s s' := by
  obtain ⟨l,hf,_,rfl⟩ := change_ok.mp h
  exact .changed l text ((find?_spec hf).2.1 ▸ hf)

theorem close_change {s s' : Store P} {id : DocumentId} {g : Nat}
    (h : s.close id = .ok (s',g)) : Change p s s' := by
  obtain ⟨l,hf,_,rfl⟩ := close_ok.mp h
  exact .closed l ((find?_spec hf).2.1 ▸ hf)

theorem Change.mono {q : Snapshot → P → Prop} {s s' : Store P} (h : Change p s s')
    (hpq : ∀ snap payload, p snap payload → q snap payload) : Change q s s' := by
  cases h with
  | same => exact .same
  | opened id text hf => exact .opened id text hf
  | changed l text hf => exact .changed l text hf
  | closed l hf => exact .closed l hf
  | published l snap payload hp hf hg hv => exact .published l snap payload (hpq _ _ hp) hf hg hv

theorem Change.valid {s s' : Store P} (h : Change p s s') (hv : s.Valid) : s'.Valid := by
  cases h with
  | same => exact hv
  | opened id text hf =>
    refine ⟨?_, ?_, ?_⟩
    · intro l hl
      simp only [List.mem_cons, List.length_cons] at hl ⊢
      rcases hl with rfl | hl
      · simp
      · have := hv.bounded l hl
        omega
    · refine List.pairwise_cons.mpr ⟨?_, hv.descending⟩
      intro l hl
      have := (hv.bounded l hl).2
      simp only
      omega
    · intro a ha b hb hoa hob hid
      rcases List.mem_cons.mp ha with rfl | ha
      · rcases List.mem_cons.mp hb with rfl | hb
        · rfl
        · exact absurd hid.symm (find?_eq_none.mp hf b hb hob)
      · rcases List.mem_cons.mp hb with rfl | hb
        · exact absurd hid (find?_eq_none.mp hf a ha hoa)
        · exact hv.single a ha b hb hoa hob hid
  | changed l text hf =>
    obtain ⟨hl,_,ho⟩ := find?_spec hf
    exact hv.update hl (fun _ => rfl) (l.evolves_change text ho)
  | closed l hf =>
    obtain ⟨hl,_,ho⟩ := find?_spec hf
    exact hv.update hl (fun _ => rfl) (l.evolves_close ho)
  | published l snap payload _ hf _ hle =>
    obtain ⟨hl,_,ho⟩ := find?_spec hf
    exact hv.update hl (fun _ => rfl) (l.evolves_store _ ho hle)

theorem Change.step {s s' : Store P} (h : Change p s s') (hv : s.Valid) : s.Step s' := by
  cases h with
  | same => exact .refl s
  | opened id text hf =>
    refine ⟨⟨fun l hl => ⟨l, List.mem_cons_of_mem _ hl, .refl l⟩⟩, ?_⟩
    intro l hl
    rcases List.mem_cons.mp hl with rfl | hl
    · exact Or.inr ⟨Nat.lt_succ_self _, rfl, rfl⟩
    · exact Or.inl ⟨l,hl,.refl l⟩
  | changed l text hf =>
    obtain ⟨hl,_,ho⟩ := find?_spec hf
    exact hv.step_update hl (l.evolves_change text ho)
  | closed l hf =>
    obtain ⟨hl,_,ho⟩ := find?_spec hf
    exact hv.step_update hl (l.evolves_close ho)
  | published l snap payload _ hf _ hle =>
    obtain ⟨hl,_,ho⟩ := find?_spec hf
    exact hv.step_update hl (l.evolves_store _ ho hle)

theorem Change.latest {s s' : Store P} (h : Change p s s') (hv : s.Valid) {l' : Lifetime P}
    {f : Finding P} (hl' : l' ∈ s'.lifetimes) (hf : l'.slot.latest = some f) :
    ∃ l ∈ s.lifetimes, l.Evolves l' ∧ (l.slot.latest = some f ∨ ∃ snap payload, p snap payload ∧
      l.id = snap.id ∧ l.generation = snap.generation ∧ f = ⟨snap.id, snap.version, payload⟩) := by
  have hold : l' ∈ s.lifetimes → ∃ l ∈ s.lifetimes, l.Evolves l' ∧ (l.slot.latest = some f ∨
      ∃ snap payload, p snap payload ∧ l.id = snap.id ∧ l.generation = snap.generation ∧
        f = ⟨snap.id, snap.version, payload⟩) :=
    fun hl => ⟨l',hl,.refl l',Or.inl hf⟩
  cases h with
  | same => exact hold hl'
  | opened id text hn =>
    rcases List.mem_cons.mp hl' with rfl | hl
    · simp at hf
    · exact hold hl
  | changed l text hfind =>
    obtain ⟨hl,_,ho⟩ := find?_spec hfind
    rcases (hv.mem_update hl).mp hl' with rfl | ⟨hx,_⟩
    · exact ⟨l,hl,l.evolves_change text ho,Or.inl hf⟩
    · exact hold hx
  | closed l hfind =>
    obtain ⟨hl,_,ho⟩ := find?_spec hfind
    rcases (hv.mem_update hl).mp hl' with rfl | ⟨hx,_⟩
    · exact ⟨l,hl,l.evolves_close ho,Or.inl hf⟩
    · exact hold hx
  | published l snap payload hp hfind hg hle =>
    obtain ⟨hl,hid,ho⟩ := find?_spec hfind
    rcases (hv.mem_update hl).mp hl' with rfl | ⟨hx,_⟩
    · exact ⟨l,hl,l.evolves_store _ ho hle,Or.inr ⟨snap,payload,hp,hid,hg,(Option.some.inj hf).symm⟩⟩
    · exact hold hx

end Store

end LiveAnalysis
