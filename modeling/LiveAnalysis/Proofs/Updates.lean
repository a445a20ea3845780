import LiveAnalysis.Proofs.Provenance
import LiveAnalysis.Proofs.Work

namespace LiveAnalysis

variable {P : Type}

def Verdict.isFailure : Verdict P → Bool
  | .found _ => false
  | .failed _ => true
  | .panicked _ => true

namespace Store

theorem Valid.mem_openLifetimes_update {s : Store P} (h : s.Valid) {l : Lifetime P}
    (hl : l ∈ s.lifetimes) {f : Lifetime P → Lifetime P} {l' : Lifetime P} :
    l' ∈ (s.update l.generation f).openLifetimes ↔ (l' = f l ∧ (f l).isOpen = true) ∨
      (l' ∈ s.openLifetimes ∧ l'.generation ≠ l.generation) := by
  rw [mem_openLifetimes, h.mem_update hl, mem_openLifetimes, or_and_right]
  constructor
  · rintro (⟨rfl,ho⟩ | ⟨⟨hm,hg⟩,ho⟩)
    · exact Or.inl ⟨rfl,ho⟩
    · exact Or.inr ⟨⟨hm,ho⟩,hg⟩
  · rintro (⟨rfl,ho⟩ | ⟨⟨hm,ho⟩,hg⟩)
    · exact Or.inl ⟨rfl,ho⟩
    · exact Or.inr ⟨⟨hm,hg⟩,ho⟩

theorem contains_iff_openLifetimes {s : Store P} {id : DocumentId} :
    s.contains id = true ↔ ∃ l ∈ s.openLifetimes, l.id = id := by
  constructor
  · intro h
    obtain ⟨l,hl⟩ := contains_iff.mp h
    obtain ⟨hm,hid,ho⟩ := find?_spec hl
    exact ⟨l, mem_openLifetimes.mpr ⟨hm,ho⟩, hid⟩
  · rintro ⟨l,hl,hid⟩
    obtain ⟨hm,ho⟩ := mem_openLifetimes.mp hl
    apply contains_iff.mpr
    cases hf : s.find? id with
    | none => exact absurd hid (find?_eq_none.mp hf l hm ho)
    | some k => exact ⟨k,rfl⟩

theorem Valid.eq_of_open {s : Store P} (h : s.Valid) {l l' : Lifetime P}
    (hl : l ∈ s.openLifetimes) (hl' : l' ∈ s.openLifetimes) (hid : l.id = l'.id) : l = l' := by
  obtain ⟨hm,ho⟩ := mem_openLifetimes.mp hl
  obtain ⟨hm',ho'⟩ := mem_openLifetimes.mp hl'
  exact h.single l hm l' hm' ho ho' hid

theorem Valid.absorb_cases {s : Store P} (h : s.Valid) (o : Option (Snapshot × Verdict P)) :
    s.absorb o = s ∨ ∃ l ∈ s.openLifetimes, ∃ f : Finding P,
      (∀ old, l.slot.latest = some old → old.version ≤ f.version) ∧
      s.absorb o = s.update l.generation fun x =>
        { x with slot := { l.slot with latest := some f } } := by
  unfold absorb
  split
  · rename_i snap payload
    rcases h.publish_cases snap payload with ⟨hs,_⟩ | ⟨l,hf,_,hle,hs⟩
    · exact Or.inl hs
    · obtain ⟨hm,_,ho⟩ := find?_spec hf
      exact Or.inr ⟨l, mem_openLifetimes.mpr ⟨hm,ho⟩, _, hle, by rw [hs]⟩
  · exact Or.inl rfl

theorem Valid.absorb {s : Store P} (h : s.Valid) (o : Option (Snapshot × Verdict P)) :
    (s.absorb o).Valid := by
  rcases h.absorb_cases o with hs | ⟨l,hl,f,hle,hs⟩
  · exact hs.symm ▸ h
  · obtain ⟨hm,ho⟩ := mem_openLifetimes.mp hl
    exact hs.symm ▸ h.update hm (fun _ => rfl) (l.evolves_store f ho hle)

theorem Valid.absorb_before {s : Store P} (h : s.Valid) {o : Option (Snapshot × Verdict P)}
    {l' : Lifetime P} (hl' : l' ∈ (s.absorb o).openLifetimes) :
    ∃ l ∈ s.openLifetimes, l.Evolves l' ∧ l'.version = l.version := by
  rcases h.absorb_cases o with hs | ⟨l,hl,f,hle,hs⟩
  · rw [hs] at hl'
    exact ⟨l', hl', .refl l', rfl⟩
  · obtain ⟨hm,ho⟩ := mem_openLifetimes.mp hl
    rw [hs] at hl'
    rcases (h.mem_openLifetimes_update hm).mp hl' with ⟨rfl,_⟩ | ⟨hx,_⟩
    · exact ⟨l, hl, l.evolves_store f ho hle, rfl⟩
    · exact ⟨l', hx, .refl l', rfl⟩

theorem Valid.absorb_after {s : Store P} (h : s.Valid) (o : Option (Snapshot × Verdict P))
    {l : Lifetime P} (hl : l ∈ s.openLifetimes) : ∃ l' ∈ (s.absorb o).openLifetimes, l'.id = l.id := by
  rcases h.absorb_cases o with hs | ⟨k,hk,f,hle,hs⟩
  · rw [hs]
    exact ⟨l, hl, rfl⟩
  · obtain ⟨hm,ho⟩ := mem_openLifetimes.mp hk
    rw [hs]
    by_cases hg : l.generation = k.generation
    · rw [h.eq_of_generation (mem_openLifetimes.mp hl).1 hm hg]
      exact ⟨_, (h.mem_openLifetimes_update hm).mpr (Or.inl ⟨rfl,ho⟩), rfl⟩
    · exact ⟨l, (h.mem_openLifetimes_update hm).mpr (Or.inr ⟨hl,hg⟩), rfl⟩

theorem Valid.absorb_answers {s : Store P} (h : s.Valid) {l l' : Lifetime P}
    (hl : l ∈ s.openLifetimes) (hle : ∀ f, l.slot.latest = some f → f.version ≤ l.version)
    {snap : Snapshot} {payload : P} (hid : snap.id = l.id) (hg : snap.generation = l.generation)
    (hv : snap.version = l.version) (hl' : l' ∈ (s.absorb (some (snap, .found payload))).openLifetimes)
    (hgl : l'.generation = l.generation) : ∃ f, l'.slot.latest = some f ∧ f.version = l.version := by
  obtain ⟨hm,ho⟩ := mem_openLifetimes.mp hl
  have hf : s.find? snap.id = some l := hid ▸ h.find?_eq hm ho
  rcases h.publish_cases snap payload with ⟨_,_,hn⟩ | ⟨k,hk,_,_,hs⟩
  · obtain ⟨old,hold,hlt⟩ := hn l hf hg.symm
    rw [hv] at hlt
    exact absurd (hle old hold) (Version.not_le_of_lt hlt)
  · cases hf.symm.trans hk
    rw [Store.absorb, hs] at hl'
    rcases (h.mem_openLifetimes_update hm).mp hl' with ⟨rfl,_⟩ | ⟨_,hne⟩
    · exact ⟨_, rfl, hv⟩
    · exact absurd hgl hne

end Store

namespace Engine

/-! Where the newest version of an open document is while the service runs. -/

def analysing? (e : Engine P) : Option Snapshot :=
  e.stage?.bind Stage.snapshot?

def lastVerdict? (attempts : List (Snapshot × Verdict P)) (generation : Nat) (version : Version) :
    Option (Verdict P) :=
  (attempts.reverse.find? fun a => a.1.generation = generation && a.1.version = version).map (·.2)

inductive Covered (e : Engine P) (attempts : List (Snapshot × Verdict P)) (l : Lifetime P) : Prop where
  | queued (h : l.id ∈ e.queue.order)
  | underway {s : Snapshot} (h : e.analysing? = some s) (hi : s.id = l.id)
    (hg : s.generation = l.generation) (hv : s.version = l.version)
  | answered {f : Finding P} (h : l.slot.latest = some f) (hv : f.version = l.version)
  | failed {verdict : Verdict P} (h : lastVerdict? attempts l.generation l.version = some verdict)
    (hf : verdict.isFailure = true)

structure Lossless (e : Engine P) (attempts : List (Snapshot × Verdict P)) : Prop where
  sound : e.queue.Sound
  known : ∀ id ∈ e.queue.order, e.store.contains id = true
  covered : ∀ l ∈ e.store.openLifetimes, e.Covered attempts l

theorem lastVerdict?_concat (attempts : List (Snapshot × Verdict P)) (s : Snapshot)
    (verdict : Verdict P) (g : Nat) (v : Version) : lastVerdict? (attempts ++ [(s,verdict)]) g v =
      if s.generation = g ∧ s.version = v then some verdict else lastVerdict? attempts g v := by
  simp only [lastVerdict?, List.reverse_append, List.reverse_singleton, List.singleton_append,
    List.find?_cons]
  by_cases h : s.generation = g ∧ s.version = v
  · simp [h]
  · have hn : (decide (s.generation = g) && decide (s.version = v)) = false := by
      simpa only [Bool.and_eq_false_iff, decide_eq_false_iff_not, ← not_and_or] using h
    simp only [hn, if_neg h]

theorem Covered.congr {e e' : Engine P} {attempts : List (Snapshot × Verdict P)} {l : Lifetime P}
    (h : e.Covered attempts l) (hq : l.id ∈ e.queue.order → l.id ∈ e'.queue.order)
    (hg : e'.analysing? = e.analysing?) : e'.Covered attempts l := by
  cases h with
  | queued h => exact .queued (hq h)
  | underway h hi hgen hv => exact .underway (hg.trans h) hi hgen hv
  | answered h hv => exact .answered h hv
  | failed h hf => exact .failed h hf

theorem analysing?_congr {e e' : Engine P} (h : e'.stage? = e.stage?) :
    e'.analysing? = e.analysing? := by
  simp only [analysing?, h]

section Step

variable {w : Worker P} {e e' : Engine P} {attempts : List (Snapshot × Verdict P)}
  (h : e.Lossless attempts)

include h

theorem Lossless.rests (hs : e'.store = e.store) (hq : e'.queue = e.queue)
    (hg : e'.analysing? = e.analysing?) : e'.Lossless attempts where
  sound := hq ▸ h.sound
  known := hs ▸ hq ▸ h.known
  covered l hl := (h.covered l (hs ▸ hl)).congr (hq ▸ id) hg

theorem Lossless.requests {ids : List DocumentId} (hi : ∀ id ∈ ids, e.store.contains id = true)
    (hs : e'.store = e.store) (hq : e'.queue = e.queue.enqueueAll ids)
    (hg : e'.analysing? = e.analysing?) : e'.Lossless attempts where
  sound := hq ▸ h.sound.enqueueAll ids
  known id hid := by
    rw [hs]
    rw [hq] at hid
    exact (Queue.mem_of_enqueueAll hid).elim (h.known id) (hi id)
  covered l hl := by
    refine (h.covered l (hs ▸ hl)).congr ?_ hg
    intro hid
    rw [hq]
    exact Queue.mem_enqueueAll_of_mem hid ids

theorem Lossless.renewed {id : DocumentId} (hq : e'.queue = (e.queue.enqueue id).1)
    (hd : e.queue.shutDown = false) (hg : e'.analysing? = e.analysing?)
    (hid : ∃ l ∈ e'.store.openLifetimes, l.id = id)
    (hkept : ∀ l ∈ e.store.openLifetimes, ∃ l' ∈ e'.store.openLifetimes, l'.id = l.id)
    (hold : ∀ l ∈ e'.store.openLifetimes, l.id = id ∨ l ∈ e.store.openLifetimes) :
    e'.Lossless attempts where
  sound := hq ▸ h.sound.enqueue id
  known x hx := by
    rw [Store.contains_iff_openLifetimes]
    rw [hq, h.sound.mem_enqueue hd] at hx
    rcases hx with hx | rfl
    · obtain ⟨l,hl,rfl⟩ := Store.contains_iff_openLifetimes.mp (h.known x hx)
      exact hkept l hl
    · exact hid
  covered l hl := by
    rcases hold l hl with hx | hx
    · apply Covered.queued
      rw [hq, h.sound.mem_enqueue hd]
      exact Or.inr hx
    · refine (h.covered l hx).congr ?_ hg
      rw [hq, h.sound.mem_enqueue hd]
      exact Or.inl

theorem Lossless.opens {id : DocumentId} {text : String}
    (hs : e.store.openDocument id text = .ok e'.store) (hq : e'.queue = (e.queue.enqueue id).1)
    (hd : e.queue.shutDown = false) (hg : e'.analysing? = e.analysing?) : e'.Lossless attempts := by
  obtain ⟨_,hs⟩ := Store.openDocument_ok.mp hs
  have hopen : e'.store.openLifetimes =
      { id, generation := e.store.lifetimes.length + 1, text } :: e.store.openLifetimes := by
    rw [hs]
    rfl
  apply h.renewed hq hd hg <;> rw [hopen]
  · exact ⟨_, List.mem_cons_self, rfl⟩
  · exact fun l hl => ⟨l, List.mem_cons_of_mem _ hl, rfl⟩
  · intro l hl
    rcases List.mem_cons.mp hl with rfl | hl
    · exact Or.inl rfl
    · exact Or.inr hl

theorem Lossless.changes (hv : e.store.Valid) {id : DocumentId} {text : String} {v : Version}
    (hs : e.store.change id text = .ok (e'.store,v)) (hq : e'.queue = (e.queue.enqueue id).1)
    (hd : e.queue.shutDown = false) (hg : e'.analysing? = e.analysing?) : e'.Lossless attempts := by
  obtain ⟨l,hl,_,hs⟩ := Store.change_ok.mp hs
  obtain ⟨hm,hid,ho⟩ := Store.find?_spec hl
  have hopen : ∀ k, k ∈ e'.store.openLifetimes ↔
      (k = { l with text, version := l.version.next } ∧ l.isOpen = true) ∨
        (k ∈ e.store.openLifetimes ∧ k.generation ≠ l.generation) :=
    fun _ => hs ▸ hv.mem_openLifetimes_update hm
  refine h.renewed hq hd hg ?_ ?_ ?_
  · exact ⟨_, (hopen _).mpr (Or.inl ⟨rfl,ho⟩), hid⟩
  · intro k hk
    by_cases hkg : k.generation = l.generation
    · rw [hv.eq_of_generation (Store.mem_openLifetimes.mp hk).1 hm hkg]
      exact ⟨_, (hopen _).mpr (Or.inl ⟨rfl,ho⟩), rfl⟩
    · exact ⟨k, (hopen _).mpr (Or.inr ⟨hk,hkg⟩), rfl⟩
  · intro k hk
    rcases (hopen k).mp hk with ⟨rfl,_⟩ | ⟨hk,_⟩
    · exact Or.inl hid
    · exact Or.inr hk

theorem Lossless.closes (hv : e.store.Valid) {id : DocumentId} {g : Nat}
    (hs : e.store.close id = .ok (e'.store,g)) (hq : e'.queue = (e.queue.remove id).1)
    (hg : e'.analysing? = e.analysing?) : e'.Lossless attempts := by
  obtain ⟨l,hl,_,hs⟩ := Store.close_ok.mp hs
  obtain ⟨hm,hid,ho⟩ := Store.find?_spec hl
  have hopen : ∀ k, k ∈ e'.store.openLifetimes ↔ k ∈ e.store.openLifetimes ∧ k.id ≠ id := by
    intro k
    rw [hs, hv.mem_openLifetimes_update hm]
    constructor
    · rintro (⟨rfl,hc⟩ | ⟨hk,hkg⟩)
      · simp [Lifetime.isOpen, Slot.close] at hc
      · refine ⟨hk, fun hkid => hkg ?_⟩
        rw [hv.eq_of_open hk (Store.mem_openLifetimes.mpr ⟨hm,ho⟩) (hkid.trans hid.symm)]
    · rintro ⟨hk,hkid⟩
      refine Or.inr ⟨hk, fun hkg => hkid ?_⟩
      rw [hv.eq_of_generation (Store.mem_openLifetimes.mp hk).1 hm hkg]
      exact hid
  have horder : ∀ x, x ∈ e'.queue.order ↔ x ∈ e.queue.order ∧ x ≠ id := by
    intro x
    rw [hq, h.sound.remove_order]
    simp
  refine ⟨?_, ?_, ?_⟩
  · exact hq ▸ h.sound.remove id
  · intro x hx
    obtain ⟨hx,hne⟩ := (horder x).mp hx
    obtain ⟨k,hk,rfl⟩ := Store.contains_iff_openLifetimes.mp (h.known x hx)
    exact Store.contains_iff_openLifetimes.mpr ⟨k, (hopen k).mpr ⟨hk,hne⟩, rfl⟩
  · intro k hk
    obtain ⟨hk,hne⟩ := (hopen k).mp hk
    exact (h.covered k hk).congr (fun hx => (horder _).mpr ⟨hx,hne⟩) hg

end Step

section Conclude

variable {w : Worker P} {had had' : Nat → Version → String → Prop}
  {asked asked' : Nat × Snapshot → Prop} {e e' : Engine P}
  {attempts : List (Snapshot × Verdict P)} {stage : Stage P} (h : e.Lossless attempts)
  (hv : e.store.Valid) (hs : Sourced w had asked e) (hs' : Sourced w had' asked' e')
  (hg : e.stage? = some stage) (hn : ∀ s, stage ≠ .underway s)
  (ha : e'.store = e.store.absorb stage.verdict?)

include h hv hs hs' hg hn ha

theorem Lossless.concluded {l' : Lifetime P} (hl' : l' ∈ e'.store.openLifetimes)
    (hq : l'.id ∈ e.queue.order → e'.Covered (attempts ++ stage.verdict?.toList) l') :
    e'.Covered (attempts ++ stage.verdict?.toList) l' := by
  have habs := ha ▸ hl'
  obtain ⟨l,hl,he,hver⟩ := hv.absorb_before habs
  have hm := (Store.mem_openLifetimes.mp hl).1
  by_cases hp : ∃ s verdict, stage = .judged s verdict ∧ s.generation = l.generation ∧
      s.version = l.version
  · obtain ⟨s,verdict,rfl,hgen,hsv⟩ := hp
    have hlast : lastVerdict? (attempts ++ [(s,verdict)]) l'.generation l'.version = some verdict := by
      rw [lastVerdict?_concat, he.generation, hver, if_pos ⟨hgen,hsv⟩]
    cases verdict with
    | found payload =>
      obtain ⟨_,k,hk,hid,_⟩ := hs.taken 0 _ s (stage?_eq.mp hg) rfl
      rw [hgen, hv.ofGeneration?_eq hm] at hk
      cases hk
      obtain ⟨f,hf,hfv⟩ := hv.absorb_answers hl (fun f hf => (hs.findings l hm f hf).2.1) hid.symm
        hgen hsv habs he.generation
      exact .answered hf (hfv.trans hver.symm)
    | failed reason => exact .failed hlast rfl
    | panicked => exact .failed hlast rfl
  · cases h.covered l hl with
    | queued hx => exact hq (he.id ▸ hx)
    | underway hx hid hgen hsv =>
      rw [analysing?, hg] at hx
      cases stage with
      | idle => simp [Stage.snapshot?] at hx
      | underway s => exact absurd rfl (hn s)
      | judged s verdict =>
        cases hx
        exact absurd ⟨_,verdict,rfl,hgen,hsv⟩ hp
    | answered hf hfv =>
      obtain ⟨f',hf',hle⟩ := he.latest _ hf
      refine .answered hf' (Version.le_antisymm ?_ ?_)
      · exact (hs'.findings l' (Store.mem_openLifetimes.mp hl').1 f' hf').2.1
      · exact hver ▸ hfv ▸ hle
    | failed hx hf =>
      refine .failed ?_ hf
      rw [he.generation, hver]
      cases stage with
      | idle =>
        change lastVerdict? (attempts ++ []) _ _ = _
        rw [List.append_nil, hx]
      | underway s => exact absurd rfl (hn s)
      | judged s verdict =>
        change lastVerdict? (attempts ++ [(s,verdict)]) _ _ = _
        rw [lastVerdict?_concat, if_neg, hx]
        exact fun hsv => hp ⟨s,verdict,rfl,hsv⟩

theorem Lossless.takes {snap : Snapshot} {rest : List DocumentId}
    (hf : e'.store.firstOpen? e.queue.order = some (snap,rest))
    (hq : e'.queue = e.queue.leave rest) (hg' : e'.stage? = some (.underway snap)) :
    e'.Lossless (attempts ++ stage.verdict?.toList) := by
  obtain ⟨skipped,l,horder,hl,rfl,hskip⟩ := Store.firstOpen?_some hf
  have hsub : rest.Sublist e.queue.order := by
    rw [horder]
    exact (List.sublist_cons_self _ _).trans (List.sublist_append_right _ _)
  refine ⟨?_, ?_, ?_⟩
  · exact hq ▸ h.sound.leave hsub
  · intro id hid
    rw [hq] at hid
    obtain ⟨k,hk,rfl⟩ := Store.contains_iff_openLifetimes.mp (h.known id (hsub.subset hid))
    exact Store.contains_iff_openLifetimes.mpr (ha ▸ hv.absorb_after stage.verdict? hk)
  · intro l' hl'
    refine h.concluded hv hs hs' hg hn ha hl' ?_
    intro hid
    obtain ⟨hm',ho'⟩ := Store.mem_openLifetimes.mp hl'
    rw [horder, List.mem_append, List.mem_cons] at hid
    rcases hid with hid | hid | hid
    · exact absurd rfl (Store.find?_eq_none.mp (hskip _ hid) l' hm' ho')
    · have hv' : e'.store.Valid := ha ▸ hv.absorb stage.verdict?
      obtain ⟨hm,_,ho⟩ := Store.find?_spec hl
      obtain rfl := hv'.eq_of_open hl' (Store.mem_openLifetimes.mpr ⟨hm,ho⟩) hid
      exact .underway (by rw [analysing?, hg']; rfl) rfl rfl rfl
    · apply Covered.queued
      rw [hq]
      exact hid

theorem Lossless.parks (hf : e'.store.firstOpen? e.queue.order = none)
    (hq : e'.queue = e.queue.leave []) :
    e'.Lossless (attempts ++ stage.verdict?.toList) where
  sound := hq ▸ h.sound.leave (List.nil_sublist _)
  known := by simp [hq]
  covered l' hl' := by
    refine h.concluded hv hs hs' hg hn ha hl' ?_
    intro hid
    obtain ⟨hm',ho'⟩ := Store.mem_openLifetimes.mp hl'
    exact absurd rfl (Store.find?_eq_none.mp (Store.firstOpen?_none hf _ hid) l' hm' ho')

end Conclude

theorem Lossless.step {w : Worker P} {had had' : Nat → Version → String → Prop}
    {asked asked' : Nat × Snapshot → Prop} {e e' : Engine P}
    {attempts : List (Snapshot × Verdict P)} {ids : List DocumentId} {o : Option (Snapshot × Verdict P)}
    (h : e.stopped = false → e.Lossless attempts) (hst : e.Staffed) (hv : e.store.Valid)
    (hs : Sourced w had asked e) (hs' : Sourced w had' asked' e') (ha : Acts w e e' ids o)
    (hr : e'.stopped = false) : e'.Lossless (attempts ++ o.toList) := by
  have hd : e.stopped = false → e.queue.shutDown = false := fun h => hst.shut.trans h
  cases ha with
  | rests hstore hq ht hg =>
    rw [Option.toList_none, List.append_nil]
    exact (h (ht ▸ hr)).rests hstore hq (analysing?_congr hg)
  | opens hstore hq ht hg =>
    rw [Option.toList_none, List.append_nil]
    exact (h (ht ▸ hr)).opens hstore hq (hd (ht ▸ hr)) (analysing?_congr hg)
  | changes hstore hq ht hg =>
    rw [Option.toList_none, List.append_nil]
    exact (h (ht ▸ hr)).changes hv hstore hq (hd (ht ▸ hr)) (analysing?_congr hg)
  | closes hstore hq ht hg =>
    rw [Option.toList_none, List.append_nil]
    exact (h (ht ▸ hr)).closes hv hstore hq (analysing?_congr hg)
  | requests ids hi hstore hq ht hg =>
    rw [Option.toList_none, List.append_nil]
    exact (h (ht ▸ hr)).requests hi hstore hq (analysing?_congr hg)
  | judges _ _ hstore hq ht hg hg' =>
    rw [Option.toList_none, List.append_nil]
    refine (h (ht ▸ hr)).rests hstore hq ?_
    rw [analysing?, analysing?, hg, hg']
    rfl
  | takes hg hn hstore hrun hf hq ht hg' => exact (h hrun).takes hv hs hs' hg hn hstore hf hq hg'
  | parks hg hn hstore hrun hf hq => exact (h hrun).parks hv hs hs' hg hn hstore hf hq
  | leaves hg hn hstore hend hq ht =>
    have hstop : e.stopped = true := hend.elim id (hst.shut ▸ ·)
    rw [ht, hstop] at hr
    simp at hr
  | shuts _ _ _ ht =>
    rw [ht] at hr
    simp at hr

end Engine

namespace Service

variable (analyzer : Analyzer P) (config : Config) (gate : Option Gate)

def attempts (moves : List Move) : List (Snapshot × Verdict P) :=
  (reached analyzer config gate []).record ⟨analyzer, config.updates⟩ Engine.attempt?
    (moves.map Move.engine)

theorem attempts_concat (moves : List Move) (m : Move) :
    attempts analyzer config gate (moves ++ [m]) = attempts analyzer config gate moves ++
      ((reached analyzer config gate moves).attempt? m.engine).toList := by
  rw [reached_eq analyzer config gate moves]
  simp only [attempts, List.map_append, List.map_singleton]
  exact Engine.record_concat _ _ _ _ _

theorem staffed_start : (reached analyzer config gate []).Staffed where
  begun := Nat.zero_lt_one
  first a hu := by
    rw [activity?_reached_nil, if_pos rfl] at hu
    exact ⟨.idle, (Option.some.inj hu).symm⟩
  others u a hne hu := by
    rw [activity?_reached_nil, if_neg hne] at hu
    simp at hu
  sole u u' s s' c c' hu := by
    have := (blank_start analyzer config gate).fresh u _ hu
    simp [Activity.isFresh] at this
  shut := rfl

theorem staffed_reached (moves : List Move) : (reached analyzer config gate moves).Staffed := by
  induction moves using List.reverseRecOn with
  | nil => exact staffed_start analyzer config gate
  | append_singleton moves m ih =>
    rw [reached_concat]
    exact ih.move (orderly_reached analyzer config gate moves) m

theorem lossless_reached (moves : List Move)
    (h : (reached analyzer config gate moves).stopped = false) :
    (reached analyzer config gate moves).Lossless (attempts analyzer config gate moves) := by
  induction moves using List.reverseRecOn with
  | nil =>
    exact ⟨Queue.sound_new, fun _ h => absurd h List.not_mem_nil, fun _ h => absurd h List.not_mem_nil⟩
  | append_singleton moves m ih =>
    have hst := staffed_reached analyzer config gate moves
    have hv := (orderly_reached analyzer config gate moves).valid
    have hs := sourced_reached analyzer config gate moves
    have hs' := sourced_reached analyzer config gate (moves ++ [m])
    rw [reached_concat] at h hs' ⊢
    rw [attempts_concat]
    exact Engine.Lossless.step ih hst hv hs hs' (Engine.acts _ hst m) h

theorem no_update_lost (moves : List Move)
    (h : (reached analyzer config gate moves).stopped = false) :
    let e := reached analyzer config gate moves
    let attempts := attempts analyzer config gate moves
    e.queue.order.Nodup ∧ (∀ id ∈ e.queue.order, e.store.contains id = true) ∧
    (∀ l ∈ e.store.openLifetimes, l.id ∈ e.queue.order ∨
      (∃ s, e.analysing? = some s ∧ s.id = l.id ∧ s.generation = l.generation ∧
        s.version = l.version) ∨
      (∃ f, l.slot.latest = some f ∧ f.version = l.version) ∨
      ∃ verdict, Engine.lastVerdict? attempts l.generation l.version = some verdict ∧
        verdict.isFailure = true) ∧
    (e.stage? = some .idle → e.queue.order = [] → ∀ l ∈ e.store.openLifetimes,
      (∃ f, l.slot.latest = some f ∧ f.version = l.version) ∨
      ∃ verdict, Engine.lastVerdict? attempts l.generation l.version = some verdict ∧
        verdict.isFailure = true) := by
  intro e attempts
  obtain ⟨hsound,hknown,hcovered⟩ : e.Lossless attempts := lossless_reached analyzer config gate moves h
  refine ⟨hsound.nodup, hknown, ?_, ?_⟩
  · intro l hl
    cases hcovered l hl with
    | queued hq => exact Or.inl hq
    | underway hs hid hg hv => exact Or.inr (Or.inl ⟨_,hs,hid,hg,hv⟩)
    | answered hf hv => exact Or.inr (Or.inr (Or.inl ⟨_,hf,hv⟩))
    | failed hlast hf => exact Or.inr (Or.inr (Or.inr ⟨_,hlast,hf⟩))
  · intro hidle hempty l hl
    cases hcovered l hl with
    | queued hq => simp [hempty] at hq
    | underway hs => simp [Engine.analysing?, hidle, Stage.snapshot?] at hs
    | answered hf hv => exact Or.inl ⟨_,hf,hv⟩
    | failed hlast hf => exact Or.inr ⟨_,hlast,hf⟩

theorem no_update_lost_panicked :
    let analyzer : Analyzer Nat := fun call _ _ => if call = 1 then .found 5 else .panicked
    let moves : List Move := [.ask (.openDocument ⟨"file:///d"⟩ "x"), .turn 0,
      .ask (.change ⟨"file:///d"⟩ "y"), .turn 0, .turn 0, .turn 0, .turn 0]
    (reached analyzer {} none moves).stopped = false ∧
    (reached analyzer {} none moves).stage? = some .idle ∧
    (reached analyzer {} none moves).queue.order = [] ∧
    (attempts analyzer {} none moves).map (·.2) = [.found 5, .panicked] ∧
    ∀ l ∈ (reached analyzer {} none moves).store.openLifetimes,
      (∃ f, l.slot.latest = some f ∧ f.version = l.version) ∨
      ∃ verdict, Engine.lastVerdict? (attempts analyzer {} none moves) l.generation l.version =
        some verdict ∧ verdict.isFailure = true := by
  intro analyzer moves
  have hrun : (reached analyzer {} none moves).stopped = false := by decide +kernel
  have hidle : (reached analyzer {} none moves).stage? = some .idle := by decide +kernel
  have hempty : (reached analyzer {} none moves).queue.order = [] := by decide +kernel
  have h := no_update_lost analyzer {} none moves hrun
  exact ⟨hrun, hidle, hempty, by decide +kernel, h.2.2.2 hidle hempty⟩

end Service

end LiveAnalysis
