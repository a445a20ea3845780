import Mathlib.Data.List.Infix
import LiveAnalysis.Proofs.Updates
import LiveAnalysis.Proofs.Waits

namespace LiveAnalysis

variable {P : Type}

namespace Store

theorem Valid.find?_update {s : Store P} (h : s.Valid) {l k : Lifetime P} (hl : l ∈ s.lifetimes)
    {f : Lifetime P → Lifetime P} (hf : ∀ x, (f x).generation = x.generation) (he : l.Evolves (f l))
    {id : DocumentId} (hk : s.find? id = some k) :
    (∃ k', (s.update l.generation f).find? id = some k' ∧ k.Evolves k') ∨
      (s.update l.generation f).find? id = none := by
  obtain ⟨hm,hid,ho⟩ := find?_spec hk
  have hv := h.update hl hf he
  obtain ⟨k',hk',hev⟩ := (h.step_update hl he).kept k hm
  cases hopen : k'.isOpen with
  | true =>
    have hfind := hv.find?_eq hk' hopen
    rw [hev.id, hid] at hfind
    exact Or.inl ⟨k',hfind,hev⟩
  | false =>
    right
    cases hx : (s.update l.generation f).find? id with
    | none => rfl
    | some x =>
      obtain ⟨hxm,hxid,hxo⟩ := find?_spec hx
      have hback : ∃ y ∈ s.lifetimes, y.Evolves x := by
        rcases (h.mem_update hl).mp hxm with rfl | ⟨hxm,_⟩
        · exact ⟨l,hl,he⟩
        · exact ⟨x,hxm,.refl x⟩
      obtain ⟨y,hy,hyx⟩ := hback
      have hyk : y = k := h.single y hy k hm (hyx.isOpen hxo) ho ((hyx.id.symm.trans hxid).trans hid.symm)
      have hxk : x = k' :=
        hv.eq_of_generation hxm hk' (hyx.generation.trans (hyk ▸ hev.generation.symm))
      rw [hxk, hopen] at hxo
      simp at hxo

theorem Change.find? {p : Snapshot → P → Prop} {s s' : Store P} (h : Change p s s') (hv : s.Valid)
    {id : DocumentId} {k : Lifetime P} (hk : s.find? id = some k) :
    (∃ k', s'.find? id = some k' ∧ k.Evolves k') ∨ s'.find? id = none := by
  cases h with
  | same => exact Or.inl ⟨k,hk,.refl k⟩
  | opened id' text hn =>
    have hne : id' ≠ id := by
      rintro rfl
      rw [hn] at hk
      simp at hk
    left
    refine ⟨k, ?_, .refl k⟩
    rw [Store.find?, List.find?_cons_of_neg (by simp [hne])]
    exact hk
  | changed l text hf =>
    obtain ⟨hl,_,ho⟩ := find?_spec hf
    refine hv.find?_update hl ?_ ?_ hk
    · exact fun _ => rfl
    · exact l.evolves_change text ho
  | closed l hf =>
    obtain ⟨hl,_,ho⟩ := find?_spec hf
    refine hv.find?_update hl ?_ ?_ hk
    · exact fun _ => rfl
    · exact l.evolves_close ho
  | published l snap payload _ hf _ hle =>
    obtain ⟨hl,_,ho⟩ := find?_spec hf
    refine hv.find?_update hl ?_ ?_ hk
    · exact fun _ => rfl
    · exact l.evolves_store _ ho hle

theorem Valid.absorb_find? {s : Store P} (h : s.Valid) (o : Option (Snapshot × Verdict P))
    {id : DocumentId} {k : Lifetime P} (hk : (s.absorb o).find? id = some k) :
    ∃ l, s.find? id = some l ∧ l.snapshot = k.snapshot := by
  obtain ⟨hm,hid,ho⟩ := find?_spec hk
  obtain ⟨l,hl,he,hver⟩ := h.absorb_before (mem_openLifetimes.mpr ⟨hm,ho⟩)
  obtain ⟨hlm,hlo⟩ := mem_openLifetimes.mp hl
  have hlid : l.id = id := he.id.symm.trans hid
  refine ⟨l, hlid ▸ h.find?_eq hlm hlo, ?_⟩
  simp only [Lifetime.snapshot, he.id, he.generation, he.text hver, hver]

theorem publish_in_order {s : Store P} {snap : Snapshot} {payload : P}
    (h : ∀ l, s.find? snap.id = some l → l.generation = snap.generation →
      ∀ old, l.slot.latest = some old → old.version ≤ snap.version) :
    (s.publish snap payload).2 ≠ .superseded := by
  unfold publish
  cases hf : s.find? snap.id with
  | none => simp
  | some l =>
    by_cases hg : l.generation = snap.generation
    · simp only [hg, if_true]
      rcases l.slot.publish_cases ⟨snap.id, snap.version, payload⟩ with
        ⟨_,hp⟩ | ⟨_,⟨old,hold,hlt⟩,_⟩ | ⟨_,_,hp⟩
      · simp [hp]
      · exact absurd (h l hf hg old hold) (Version.not_le_of_lt hlt)
      · simp [hp]
    · simp [hg]

end Store

namespace Engine

def picked? (w : Worker P) (e : Engine P) (m : Move) : Option Snapshot :=
  match (e.move w m).activity? e.tickets with
  | some (.analysis _ s _) => some s
  | _ => none

theorem Acts.begins {w : Worker P} {e e' : Engine P} {ids : List DocumentId}
    {o : Option (Snapshot × Verdict P)} (h : Acts w e e' ids o) {s : Snapshot}
    (hs : e'.stage? = some (.underway s)) (hn : ∀ s', e.stage? ≠ some (.underway s'))
    (hfree : e.activity? e.tickets = none) :
    e'.activity? e.tickets = some (.analysis 0 s none) := by
  cases h with
  | rests _ _ _ hg => exact absurd (hg.symm.trans hs) (hn s)
  | opens _ _ _ hg => exact absurd (hg.symm.trans hs) (hn s)
  | changes _ _ _ hg => exact absurd (hg.symm.trans hs) (hn s)
  | closes _ _ _ hg => exact absurd (hg.symm.trans hs) (hn s)
  | requests _ _ _ _ _ hg => exact absurd (hg.symm.trans hs) (hn s)
  | judges _ _ _ _ _ hg => exact absurd hg (hn _)
  | takes _ _ _ _ _ _ _ hg hb =>
    cases hg.symm.trans hs
    exact hb hfree
  | parks _ _ _ _ _ _ _ hg => simp [hg] at hs
  | leaves _ _ _ _ _ _ hg => simp [hg] at hs
  | shuts _ _ _ _ hg => exact absurd (hg.symm.trans hs) (hn s)

theorem picked?_iff {w : Worker P} {e : Engine P} (ho : e.Orderly) (hst : e.Staffed)
    (m : Service.Move) {s : Snapshot} : e.picked? w m.engine = some s ↔
      (e.move w m.engine).stage? = some (.underway s) ∧ ∀ s', e.stage? ≠ some (.underway s') := by
  constructor
  · intro hs
    unfold picked? at hs
    split at hs
    · rename_i owner s' c hu
      cases hs
      obtain ⟨rfl,hstage⟩ := (hst.move ho m).of_analysis hu
      refine ⟨hstage, ?_⟩
      rcases analysis_before (moved w ho m.engine) hu with ⟨c',hu'⟩ | ⟨_,hn⟩
      · rw [ho.free] at hu'
        simp at hu'
      · exact hn
    · simp at hs
  · rintro ⟨hstage,hn⟩
    rw [picked?, (acts w hst m).begins hstage hn ho.free]

structure Picks (e e' : Engine P) (s : Snapshot) : Prop where
  running : e.stopped = false
  free : ∀ s', e.stage? ≠ some (.underway s')
  stage : ∃ stage, e.stage? = some stage ∧ e'.store = e.store.absorb stage.verdict?
  first : ∃ skipped, e.queue.order = skipped ++ s.id :: e'.queue.order ∧
    ∀ id ∈ skipped, e'.store.find? id = none
  newest : ∃ l, e'.store.find? s.id = some l ∧ l.snapshot = s
  begun : e'.stage? = some (.underway s)

theorem Acts.picks {w : Worker P} {e e' : Engine P} {ids : List DocumentId}
    {o : Option (Snapshot × Verdict P)} (h : Acts w e e' ids o) {s : Snapshot}
    (hs : e'.stage? = some (.underway s)) : e.stage? = some (.underway s) ∨ Picks e e' s := by
  cases h with
  | rests _ _ _ hg => exact Or.inl (hg.symm.trans hs)
  | opens _ _ _ hg => exact Or.inl (hg.symm.trans hs)
  | changes _ _ _ hg => exact Or.inl (hg.symm.trans hs)
  | closes _ _ _ hg => exact Or.inl (hg.symm.trans hs)
  | requests _ _ _ _ _ hg => exact Or.inl (hg.symm.trans hs)
  | judges _ _ _ _ _ _ hg => simp [hg] at hs
  | takes hg hn hst hr hf hq _ hg' =>
    have hfree : ∀ s', e.stage? ≠ some (.underway s') :=
      fun s' hx => hn s' (Option.some.inj (hg.symm.trans hx))
    obtain ⟨skipped,l,horder,hl,rfl,hskip⟩ := Store.firstOpen?_some hf
    cases hg'.symm.trans hs
    refine Or.inr ⟨hr, hfree, ⟨_,hg,hst⟩, ⟨skipped,?_,hskip⟩, ⟨l,hl,rfl⟩, hs⟩
    rw [hq]
    exact horder
  | parks _ _ _ _ _ _ _ hg => simp [hg] at hs
  | leaves _ _ _ _ _ _ hg => simp [hg] at hs
  | shuts _ _ _ _ hg => exact Or.inl (hg.symm.trans hs)

theorem Acts.still_analysing {w : Worker P} {e e' : Engine P} {ids : List DocumentId}
    {o : Option (Snapshot × Verdict P)} (h : Acts w e e' ids o) {s : Snapshot}
    (hs : e'.analysing? = some s) : e.analysing? = some s ∨ e'.stage? = some (.underway s) := by
  cases h with
  | rests _ _ _ hg => exact Or.inl (analysing?_congr hg ▸ hs)
  | opens _ _ _ hg => exact Or.inl (analysing?_congr hg ▸ hs)
  | changes _ _ _ hg => exact Or.inl (analysing?_congr hg ▸ hs)
  | closes _ _ _ hg => exact Or.inl (analysing?_congr hg ▸ hs)
  | requests _ _ _ _ _ hg => exact Or.inl (analysing?_congr hg ▸ hs)
  | judges _ _ _ _ _ hg hg' =>
    rw [analysing?, hg'] at hs
    rw [analysing?, hg]
    exact Or.inl hs
  | takes _ _ _ _ _ _ _ hg =>
    rw [analysing?, hg] at hs
    cases hs
    exact Or.inr hg
  | parks _ _ _ _ _ _ _ hg => simp [analysing?, hg, Stage.snapshot?] at hs
  | leaves _ _ _ _ _ _ hg => simp [analysing?, hg] at hs
  | shuts _ _ _ _ hg => exact Or.inl (analysing?_congr hg ▸ hs)

theorem picked?_some {w : Worker P} {e : Engine P} (ho : e.Orderly) (hst : e.Staffed)
    {m : Service.Move} {s : Snapshot} (h : e.picked? w m.engine = some s) :
    Picks e (e.move w m.engine) s := by
  obtain ⟨hs,hn⟩ := (picked?_iff ho hst m).mp h
  exact ((acts w hst m).picks hs).resolve_left (hn s)

theorem picked?_none {w : Worker P} {e : Engine P} (ho : e.Orderly) (hst : e.Staffed)
    {m : Service.Move} (h : e.picked? w m.engine = none) {s : Snapshot}
    (hs : (e.move w m.engine).stage? = some (.underway s)) : e.stage? = some (.underway s) := by
  rcases (acts w hst m).picks hs with hx | hp
  · exact hx
  · rw [(picked?_iff ho hst m).mpr ⟨hs,hp.free⟩] at h
    simp at h

structure Paced (e : Engine P) (picked : List Snapshot) : Prop where
  known : ∀ s ∈ picked, ∃ l, e.store.ofGeneration? s.generation = some l ∧ l.id = s.id ∧
    s.version ≤ l.version
  rising : picked.Pairwise fun s s' => s.generation = s'.generation → s.version ≤ s'.version
  newest : ∀ s, e.analysing? = some s → picked.getLast? = some s

theorem Paced.move {w : Worker P} {e : Engine P} {picked : List Snapshot} (h : e.Paced picked)
    (ho : e.Orderly) (hst : e.Staffed) (m : Service.Move) :
    (e.move w m.engine).Paced (picked ++ (e.picked? w m.engine).toList) := by
  have hm := moved w ho m.engine
  have hv' := hm.change.valid ho.valid
  have hknown : ∀ s ∈ picked, ∃ l, (e.move w m.engine).store.ofGeneration? s.generation = some l ∧
      l.id = s.id ∧ s.version ≤ l.version := by
    intro s hs
    obtain ⟨l,hl,hid,hle⟩ := h.known s hs
    obtain ⟨l',hl',he⟩ := (hm.later ho).store.ofGeneration? hv' hl
    exact ⟨l', hl', he.id.trans hid, Version.le_trans hle he.version⟩
  cases hp : e.picked? w m.engine with
  | none =>
    rw [Option.toList_none, List.append_nil]
    refine ⟨hknown, h.rising, fun s hs => h.newest s ?_⟩
    rcases (acts w hst m).still_analysing hs with hx | hx
    · exact hx
    · rw [analysing?, picked?_none ho hst hp hx]
      rfl
  | some s =>
    have hpick := picked?_some ho hst hp
    obtain ⟨l,hl,rfl⟩ := hpick.newest
    have hgen := hv'.ofGeneration?_eq (Store.find?_spec hl).1
    refine ⟨?_, List.pairwise_append.mpr ⟨h.rising, List.pairwise_singleton _ _, ?_⟩, ?_⟩
    · intro s hs
      rcases List.mem_append.mp hs with hs | hs
      · exact hknown s hs
      · cases List.mem_singleton.mp hs
        exact ⟨l, hgen, rfl, Version.le_refl _⟩
    · intro s hs s' hs' hg
      cases List.mem_singleton.mp hs'
      obtain ⟨l',hl',_,hle⟩ := hknown s hs
      rw [hg] at hl'
      cases hl'.symm.trans hgen
      exact hle
    · intro s hs
      rw [analysing?, hpick.begun] at hs
      cases hs
      simp

theorem judge_activity? (w : Worker P) (e : Engine P) (t owner : Ticket) (s : Snapshot) (call : Nat) :
    (e.judge w t owner s call).activity? t = none := by
  rw [judge, activity?_deliver, activity?_remove, activity?_remove, if_pos rfl]
  by_cases h : t = owner
  · subst h
    simp
  · rw [if_neg h]

theorem turn_asks {w : Worker P} {e : Engine P} {t owner : Ticket} {s : Snapshot}
    (h : e.activity? t = some (.analysis owner s none)) (owner' : Ticket) (s' : Snapshot) :
    (e.turn w t).activity? t ≠ some (.analysis owner' s' none) := by
  have hj : ∀ (e' : Engine P) call,
      (e'.judge w t owner s call).activity? t ≠ some (.analysis owner' s' none) := by
    intro e' call
    rw [judge_activity?]
    simp
  simp only [turn, h, analysisTurn]
  split
  · exact hj _ _
  · split
    · exact hj _ _
    · rw [activity?_set, if_pos rfl]
      intro hx
      obtain ⟨_,_,hx⟩ := Option.map_eq_some_iff.mp hx
      simp at hx

inductive Consults (e : Engine P) (analysed picked : List Snapshot) : Prop where
  | all (h : picked = analysed) (hn : ∀ u owner s, e.activity? u ≠ some (.analysis owner s none))
  | next {u : Ticket} {s : Snapshot} (hu : e.activity? u = some (.analysis 0 s none))
    (h : picked = analysed ++ [s])

theorem consulted?_some {e : Engine P} {m : Move} {c : Nat × Snapshot} :
    e.consulted? m = some c ↔ c.1 = e.calls + 1 ∧
      ∃ t owner, e.turning? m = some t ∧ e.activity? t = some (.analysis owner c.2 none) := by
  unfold consulted?
  constructor
  · intro h
    split at h
    · rename_i owner s hu
      cases h
      obtain ⟨t,ht,hu⟩ := Option.bind_eq_some_iff.mp hu
      exact ⟨rfl,t,owner,ht,hu⟩
    · simp at h
  · rintro ⟨hc,t,owner,ht,hu⟩
    simp only [ht, Option.bind_some, hu, ← hc]

theorem analysis_came {w : Worker P} {e : Engine P} (ho : e.Orderly)
    {m : Service.Move} {u owner : Ticket} {s : Snapshot}
    (hu : (e.move w m.engine).activity? u = some (.analysis owner s none)) :
    e.activity? u = some (.analysis owner s none) ∨ ∃ s', e.picked? w m.engine = some s' := by
  cases (moved w ho m.engine).comes u _ hu with
  | stays hx => exact Or.inl hx
  | starts hf => simp [Activity.isFresh] at hf
  | arises ht har =>
    cases har with
    | kept hx => exact Or.inl hx
    | begun => exact Or.inr ⟨_, by rw [picked?, hu]⟩

theorem Consults.move {w : Worker P} {e : Engine P} {analysed picked : List Snapshot}
    (h : e.Consults analysed picked) (ho : e.Orderly) (hst : e.Staffed) (m : Service.Move) :
    (e.move w m.engine).Consults (analysed ++ (e.consulted? m.engine).toList.map (·.2))
      (picked ++ (e.picked? w m.engine).toList) := by
  cases hp : e.picked? w m.engine with
  | some s =>
    obtain ⟨hs,hn⟩ := (picked?_iff ho hst m).mp hp
    have hfree : ∀ u owner s' c, e.activity? u ≠ some (.analysis owner s' c) :=
      fun u owner s' c hu => hn s' (hst.of_analysis hu).2
    have hc : e.consulted? m.engine = none := by
      cases hc : e.consulted? m.engine with
      | none => rfl
      | some c =>
        obtain ⟨_,t,owner,_,hu⟩ := consulted?_some.mp hc
        exact absurd hu (hfree _ _ _ _)
    have hnew := (acts w hst m).begins hs hn ho.free
    rw [hc]
    cases h with
    | all h _ => exact .next hnew (by simp [h])
    | next hu => exact absurd hu (hfree _ _ _ _)
  | none =>
    have hcame : ∀ u owner s, (e.move w m.engine).activity? u = some (.analysis owner s none) →
        e.activity? u = some (.analysis owner s none) := by
      intro u owner s hu
      refine (analysis_came ho hu).resolve_right ?_
      simp [hp]
    rw [Option.toList_none, List.append_nil]
    cases hc : e.consulted? m.engine with
    | none =>
      rw [Option.toList_none, List.map_nil, List.append_nil]
      cases h with
      | all h hn => exact .all h fun u owner s hu => hn u owner s (hcame u owner s hu)
      | next hu h =>
        refine .next ((moved w ho m.engine).still_waits hu rfl ?_) h
        intro ht
        have hx := (consulted?_some (c := (_,_))).mpr ⟨rfl,_,_,ht,hu⟩
        simp [hc] at hx
    | some c =>
      obtain ⟨_,t,owner,ht,hu⟩ := consulted?_some.mp hc
      obtain ⟨rfl,_⟩ := hst.of_analysis hu
      cases h with
      | all _ hn => exact absurd hu (hn _ _ _)
      | next hx h =>
        obtain rfl := hst.sole _ _ _ _ _ _ hx hu
        cases hx.symm.trans hu
        refine .all h fun u owner s hu' => ?_
        have hold := hcame u owner s hu'
        obtain ⟨rfl,_⟩ := hst.of_analysis hold
        obtain rfl := hst.sole _ _ _ _ _ _ hold hx
        obtain ⟨ready,he⟩ := move_turning w ht
        rw [he] at hu'
        exact turn_asks (e := { e with ready }) hu _ _ hu'

/-!
A document is queued only for a version that has not been taken up yet, unless somebody asks for its
analysis.
-/

def Fresh (e : Engine P) (requested : Nat → Prop) (picked : List Snapshot) : Prop :=
  ∀ l ∈ e.store.openLifetimes, ¬ requested l.generation → l.id ∈ e.queue.order →
    ∀ s ∈ picked, s.generation = l.generation → s.version < l.version

section Fresh

variable {w : Worker P} {e e' : Engine P} {requested requested' : Nat → Prop} {picked : List Snapshot}
  (h : e.Fresh requested picked) (hr : ∀ g, requested g → requested' g)

include h hr

theorem Fresh.same (hs : e'.store = e.store) (hq : ∀ l ∈ e.store.openLifetimes,
    l.id ∈ e'.queue.order → l.id ∈ e.queue.order ∨ requested' l.generation) :
    e'.Fresh requested' picked := by
  intro l hl hn hid
  rw [hs] at hl
  exact h l hl (fun hg => hn (hr _ hg)) ((hq l hl hid).resolve_right hn)

theorem Fresh.absorbed (hv : e.store.Valid) {o : Option (Snapshot × Verdict P)}
    (hs : e'.store = e.store.absorb o) (hq : ∀ id ∈ e'.queue.order, id ∈ e.queue.order) :
    e'.Fresh requested' picked := by
  intro l hl hn hid
  rw [hs] at hl
  obtain ⟨l₀,hl₀,he,hver⟩ := hv.absorb_before hl
  have hid₀ : l₀.id ∈ e.queue.order := he.id ▸ hq l.id hid
  rw [he.generation] at hn ⊢
  rw [hver]
  exact h l₀ hl₀ (fun hg => hn (hr _ hg)) hid₀

theorem Fresh.entered {id : DocumentId} {k : Lifetime P}
    (hk : ∀ s ∈ picked, s.generation = k.generation → s.version < k.version)
    (hopen : ∀ l ∈ e'.store.openLifetimes, l = k ∨ l ∈ e.store.openLifetimes ∧ l.id ≠ id)
    (hq : e'.queue = (e.queue.enqueue id).1) : e'.Fresh requested' picked := by
  intro l hl hn hid
  rcases hopen l hl with rfl | ⟨hl,hne⟩
  · exact hk
  · rw [hq] at hid
    exact h l hl (fun hg => hn (hr _ hg)) ((Queue.mem_of_enqueue hid).resolve_right hne)

theorem Fresh.acts (hp : e.Paced picked) (hv : e.store.Valid) {ids : List DocumentId}
    {o : Option (Snapshot × Verdict P)} (ha : Acts w e e' ids o)
    (hn : ∀ s, e'.stage? = some (.underway s) → e.stage? = some (.underway s))
    (hids : ∀ id ∈ ids, ∀ l, e.store.find? id = some l → requested' l.generation) :
    e'.Fresh requested' picked := by
  cases ha with
  | rests hs hq => exact h.same hr hs fun l _ hid => Or.inl (hq ▸ hid)
  | @opens id text hs hq =>
    obtain ⟨hnone,hs⟩ := Store.openDocument_ok.mp hs
    refine h.entered (k := { id, generation := e.store.lifetimes.length + 1, text }) hr ?_ ?_ hq
    · intro s hs hg
      obtain ⟨l,hl,_⟩ := hp.known s hs
      obtain ⟨hm,hgl⟩ := Store.ofGeneration?_spec hl
      have := (hv.bounded l hm).2
      rw [hgl, hg] at this
      simp only at this
      omega
    · intro l hl
      rw [Store.mem_openLifetimes, hs, List.mem_cons] at hl
      obtain ⟨rfl | hl,ho⟩ := hl
      · exact Or.inl rfl
      · exact Or.inr ⟨Store.mem_openLifetimes.mpr ⟨hl,ho⟩, Store.find?_eq_none.mp hnone l hl ho⟩
  | @changes id text v hs hq =>
    obtain ⟨l,hl,_,hs⟩ := Store.change_ok.mp hs
    obtain ⟨hm,hid,ho⟩ := Store.find?_spec hl
    refine h.entered (k := { l with text, version := l.version.next }) hr ?_ ?_ hq
    · intro s hs hg
      obtain ⟨l',hl',_,hle⟩ := hp.known s hs
      rw [hg, hv.ofGeneration?_eq hm] at hl'
      cases hl'
      exact Nat.lt_of_le_of_lt hle l.version.lt_next
    · intro k hk
      rw [hs] at hk
      rcases (hv.mem_openLifetimes_update hm).mp hk with ⟨rfl,_⟩ | ⟨hk,hg⟩
      · exact Or.inl rfl
      · refine Or.inr ⟨hk, fun hkid => hg ?_⟩
        rw [hv.eq_of_open hk (Store.mem_openLifetimes.mpr ⟨hm,ho⟩) (hkid.trans hid.symm)]
  | @closes id g hs hq =>
    obtain ⟨l,hl,_,hs⟩ := Store.close_ok.mp hs
    obtain ⟨hm,_,_⟩ := Store.find?_spec hl
    intro k hk hnk hid
    rw [hs] at hk
    rw [hq] at hid
    rcases (hv.mem_openLifetimes_update hm).mp hk with ⟨_,hc⟩ | ⟨hk,_⟩
    · simp [Lifetime.isOpen, Slot.close] at hc
    · exact h k hk (fun hg => hnk (hr _ hg)) ((Queue.remove_sublist _ _).subset hid)
  | requests _ _ hs hq =>
    refine h.same hr hs fun l hl hid => ?_
    rw [hq] at hid
    refine (Queue.mem_of_enqueueAll hid).imp_right fun hid => ?_
    obtain ⟨hm,ho⟩ := Store.mem_openLifetimes.mp hl
    exact hids _ hid l (hv.find?_eq hm ho)
  | judges _ _ hs hq => exact h.same hr hs fun l _ hid => Or.inl (hq ▸ hid)
  | takes hg hfree _ _ _ _ _ hg' => exact absurd (Option.some.inj (hg.symm.trans (hn _ hg'))) (hfree _)
  | parks _ _ hs _ _ hq => exact h.absorbed hr hv hs fun id hid => by simp [hq] at hid
  | leaves _ _ hs _ hq => exact h.absorbed hr hv hs fun id hid => hq ▸ hid
  | shuts _ hs hq => exact h.same hr hs fun l _ hid => by simp [hq, Queue.shut] at hid

end Fresh

theorem Picks.version_lt {e e' : Engine P} {requested : Nat → Prop} {picked : List Snapshot}
    {s : Snapshot} (h : Picks e e' s) (hf : e.Fresh requested picked) (hv : e.store.Valid)
    (hn : ¬ requested s.generation) :
    ∀ s' ∈ picked, s'.generation = s.generation → s'.version < s.version := by
  obtain ⟨stage,_,hs⟩ := h.stage
  obtain ⟨l',hl',rfl⟩ := h.newest
  obtain ⟨l,hl,hsnap⟩ := hv.absorb_find? stage.verdict? (hs ▸ hl')
  obtain ⟨hm,hid,ho⟩ := Store.find?_spec hl
  obtain ⟨skipped,horder,_⟩ := h.first
  rw [← hsnap] at hn ⊢
  refine hf l (Store.mem_openLifetimes.mpr ⟨hm,ho⟩) hn ?_
  rw [hid, horder]
  simp

structure Sparing (e : Engine P) (requested : Nat → Prop) (picked : List Snapshot) : Prop where
  fresh : e.Fresh requested picked
  once : picked.Pairwise fun s s' =>
    s.generation = s'.generation → ¬ requested s.generation → s.version < s'.version

theorem Sparing.move {w : Worker P} {e : Engine P} {requested requested' : Nat → Prop}
    {picked : List Snapshot} (h : e.Sparing requested picked) (hp : e.Paced picked)
    (ho : e.Orderly) (hst : e.Staffed) (hd : e.stopped = false → e.queue.order.Nodup)
    (m : Service.Move) (hr : ∀ g, requested g → requested' g)
    (hids : ∀ id ∈ e.requested m, ∀ l, e.store.find? id = some l → requested' l.generation) :
    (e.move w m.engine).Sparing requested' (picked ++ (e.picked? w m.engine).toList) := by
  have honce : picked.Pairwise fun s s' =>
      s.generation = s'.generation → ¬ requested' s.generation → s.version < s'.version :=
    h.once.imp fun hx hg hn => hx hg fun hg => hn (hr _ hg)
  cases hpick : e.picked? w m.engine with
  | none =>
    rw [Option.toList_none, List.append_nil]
    exact ⟨h.fresh.acts hr hp ho.valid (acts w hst m) (fun _ => picked?_none ho hst hpick) hids, honce⟩
  | some s =>
    have hs := picked?_some ho hst hpick
    have hv' := (moved w ho m.engine).change.valid ho.valid
    obtain ⟨skipped,horder,_⟩ := hs.first
    obtain ⟨stage,_,hstore⟩ := hs.stage
    obtain ⟨l,hl,hsnap⟩ := hs.newest
    have hleft : ∀ id ∈ (e.move w m.engine).queue.order, id ∈ e.queue.order := by
      intro id hid
      rw [horder]
      exact List.mem_append_right _ (List.mem_cons_of_mem _ hid)
    have hgone : s.id ∉ (e.move w m.engine).queue.order := by
      have hnodup := hd hs.running
      rw [horder] at hnodup
      exact (List.nodup_cons.mp (List.nodup_append.mp hnodup).2.1).1
    have hfresh := h.fresh.absorbed hr ho.valid hstore hleft
    refine ⟨?_, List.pairwise_append.mpr ⟨honce, List.pairwise_singleton _ _, ?_⟩⟩
    · intro k hk hn hid s' hs' hg
      rcases List.mem_append.mp hs' with hs' | hs'
      · exact hfresh k hk hn hid s' hs' hg
      · cases List.mem_singleton.mp hs'
        obtain ⟨hm,hlid,_⟩ := Store.find?_spec hl
        have hkl : k = l := by
          refine hv'.eq_of_generation (Store.mem_openLifetimes.mp hk).1 hm ?_
          rw [← hg, ← hsnap]
          rfl
        rw [hkl, hlid] at hid
        exact absurd hid hgone
    · intro a ha b hb hg hn
      cases List.mem_singleton.mp hb
      exact hs.version_lt h.fresh ho.valid (fun hx => hn (hg ▸ hr _ hx)) a ha hg

theorem Acts.leaves_queue {w : Worker P} {e e' : Engine P} {ids : List DocumentId}
    {o : Option (Snapshot × Verdict P)} (ha : Acts w e e' ids o) (hv : e.store.Valid)
    (hst : e.queue.shutDown = e.stopped) {id : DocumentId} (hid : id ∈ e.queue.order)
    (hid' : id ∉ e'.queue.order) (hr : e'.stopped = false) (hc : e'.store.contains id = true) :
    ∃ s, s.id = id ∧ e'.stage? = some (.underway s) ∧ ∀ s', e.stage? ≠ some (.underway s') := by
  obtain ⟨k,hk⟩ := Store.contains_iff.mp hc
  cases ha with
  | rests _ hq => exact absurd (hq ▸ hid) hid'
  | opens _ hq => exact absurd (Queue.mem_enqueue_of_mem hid _) (hq ▸ hid')
  | changes _ hq => exact absurd (Queue.mem_enqueue_of_mem hid _) (hq ▸ hid')
  | @closes closed g hs hq =>
    rw [hq] at hid'
    have heq : id = closed := by_contra fun hne => hid' (Queue.mem_remove hid hne)
    obtain ⟨l,hl,_,hs⟩ := Store.close_ok.mp hs
    obtain ⟨hlm,hlid,hlo⟩ := Store.find?_spec hl
    obtain ⟨hkm,hkid,hko⟩ := Store.find?_spec hk
    have hko := Store.mem_openLifetimes.mpr ⟨hkm,hko⟩
    rw [hs] at hko
    rcases (hv.mem_openLifetimes_update hlm).mp hko with ⟨_,ho⟩ | ⟨hko,hg⟩
    · simp [Lifetime.isOpen, Slot.close] at ho
    · refine absurd (congrArg Lifetime.generation ?_) hg
      exact hv.eq_of_open hko (Store.mem_openLifetimes.mpr ⟨hlm,hlo⟩) ((hkid.trans heq).trans hlid.symm)
  | requests _ _ _ hq => exact absurd (Queue.mem_enqueueAll_of_mem hid _) (hq ▸ hid')
  | judges _ _ _ hq => exact absurd (hq ▸ hid) hid'
  | takes hg hn _ _ hf hq _ hg' =>
    obtain ⟨skipped,l,horder,hl,rfl,hskip⟩ := Store.firstOpen?_some hf
    refine ⟨l.snapshot, ?_, hg', fun s' hx => hn s' (Option.some.inj (hg.symm.trans hx))⟩
    rw [horder, List.mem_append, List.mem_cons] at hid
    rw [hq] at hid'
    rcases hid with hid | hid | hid
    · rw [hskip id hid] at hk
      simp at hk
    · exact hid.symm
    · exact absurd hid hid'
  | parks _ _ _ _ hf =>
    rw [Store.firstOpen?_none hf id hid] at hk
    simp at hk
  | leaves _ _ _ hend _ ht =>
    have hstop : e.stopped = true := hend.elim (fun h => h) (hst ▸ ·)
    simp [ht, hstop] at hr
  | shuts _ _ _ ht => simp [ht] at hr

theorem Acts.emptied {w : Worker P} {e e' : Engine P} {ids : List DocumentId}
    {o : Option (Snapshot × Verdict P)} (ha : Acts w e e' ids o)
    (h : e.stopped = true → e.queue = { shutDown := true }) (hs : e'.stopped = true) :
    e'.queue = { shutDown := true } := by
  cases ha with
  | rests _ hq ht => exact hq.trans (h (ht ▸ hs))
  | opens _ hq ht => rw [hq, h (ht ▸ hs), Queue.enqueue_shut rfl]
  | changes _ hq ht => rw [hq, h (ht ▸ hs), Queue.enqueue_shut rfl]
  | closes _ hq ht =>
    rw [hq, h (ht ▸ hs)]
    rfl
  | requests _ _ _ hq ht => rw [hq, h (ht ▸ hs), Queue.enqueueAll_shut rfl]
  | judges _ _ _ hq ht => exact hq.trans (h (ht ▸ hs))
  | takes _ _ _ hr _ _ ht => simp [ht, hr] at hs
  | parks _ _ _ hr _ _ ht => simp [ht, hr] at hs
  | leaves _ _ _ _ hq ht => exact hq.trans (h (ht ▸ hs))
  | shuts _ _ hq => exact hq

end Engine

namespace Service

open Engine

variable (analyzer : Analyzer P) (config : Config) (gate : Option Gate)

def picked (moves : List Move) : List Snapshot :=
  (reached analyzer config gate []).record ⟨analyzer, config.updates⟩
    (Engine.picked? ⟨analyzer, config.updates⟩) (moves.map Move.engine)

def Requested (moves : List Move) (g : Nat) : Prop :=
  ∃ before m later, moves = before ++ m :: later ∧
    ∃ id ∈ (reached analyzer config gate before).requested m,
      ∃ l, (reached analyzer config gate before).store.find? id = some l ∧ l.generation = g

theorem picked_concat (moves : List Move) (m : Move) : picked analyzer config gate (moves ++ [m]) =
    picked analyzer config gate moves ++ ((reached analyzer config gate moves).picked?
      ⟨analyzer, config.updates⟩ m.engine).toList := by
  rw [reached_eq analyzer config gate moves]
  simp only [picked, List.map_append, List.map_singleton]
  exact Engine.record_concat _ _ _ _ _

theorem picked_append (moves more : List Move) : ∃ later,
    picked analyzer config gate (moves ++ more) = picked analyzer config gate moves ++ later := by
  simp only [picked, List.map_append, record_append]
  exact ⟨_,rfl⟩

theorem consulted_concat (moves : List Move) (m : Move) :
    consulted analyzer config gate (moves ++ [m]) = consulted analyzer config gate moves ++
      ((reached analyzer config gate moves).consulted? m.engine).toList := by
  rw [reached_eq analyzer config gate moves]
  simp only [consulted, List.map_append, List.map_singleton]
  exact Engine.consulted_concat

theorem emptied_reached (moves : List Move) (h : (reached analyzer config gate moves).stopped = true) :
    (reached analyzer config gate moves).queue = { shutDown := true } := by
  induction moves using List.reverseRecOn with
  | nil => exact absurd h Bool.false_ne_true
  | append_singleton moves m ih =>
    have hst := staffed_reached analyzer config gate moves
    rw [reached_concat] at h ⊢
    exact (acts _ hst m).emptied ih h

theorem queued_open (moves : List Move) (id : DocumentId)
    (h : id ∈ (reached analyzer config gate moves).queue.order) :
    (reached analyzer config gate moves).store.contains id = true := by
  cases hs : (reached analyzer config gate moves).stopped with
  | false => exact (lossless_reached analyzer config gate moves hs).known id h
  | true =>
    rw [emptied_reached analyzer config gate moves hs] at h
    simp at h

theorem paced_reached (moves : List Move) :
    (reached analyzer config gate moves).Paced (picked analyzer config gate moves) := by
  induction moves using List.reverseRecOn with
  | nil =>
    refine ⟨by simp [picked, record], .nil, fun s hs => ?_⟩
    simp [analysing?, stage?, activity?_reached_nil, Stage.snapshot?] at hs
  | append_singleton moves m ih =>
    rw [reached_concat, picked_concat]
    exact ih.move (orderly_reached analyzer config gate moves) (staffed_reached analyzer config gate moves) m

theorem consults_reached (moves : List Move) : (reached analyzer config gate moves).Consults
    ((consulted analyzer config gate moves).map (·.2)) (picked analyzer config gate moves) := by
  induction moves using List.reverseRecOn with
  | nil =>
    refine .all rfl fun u owner s hu => ?_
    rw [activity?_reached_nil] at hu
    split at hu <;> simp at hu
  | append_singleton moves m ih =>
    rw [reached_concat, picked_concat, consulted_concat, List.map_append]
    exact ih.move (orderly_reached analyzer config gate moves) (staffed_reached analyzer config gate moves) m

variable {analyzer config gate} in
theorem Requested.append {moves : List Move} {g : Nat} (h : Requested analyzer config gate moves g)
    (more : List Move) : Requested analyzer config gate (moves ++ more) g := by
  obtain ⟨before,m,later,hmoves,hm⟩ := h
  exact ⟨before, m, later ++ more, by rw [hmoves]; simp, hm⟩

theorem sparing_reached (moves : List Move) : (reached analyzer config gate moves).Sparing
    (Requested analyzer config gate moves) (picked analyzer config gate moves) := by
  induction moves using List.reverseRecOn with
  | nil =>
    refine ⟨fun l hl => ?_, .nil⟩
    rw [Store.mem_openLifetimes, (blank_start analyzer config gate).lifetimes] at hl
    simp at hl
  | append_singleton moves m ih =>
    rw [reached_concat, picked_concat]
    refine ih.move (paced_reached analyzer config gate moves) (orderly_reached analyzer config gate moves)
      (staffed_reached analyzer config gate moves) ?_ m ?_ ?_
    · exact fun hs => (lossless_reached analyzer config gate moves hs).sound.nodup
    · exact fun g hg => hg.append [m]
    · exact fun id hid l hl => ⟨moves, m, [], rfl, id, hid, l, hl, rfl⟩

variable {analyzer config gate}

theorem consulted_picked {moves : List Move} {call : Nat} {s : Snapshot}
    (h : (call,s) ∈ consulted analyzer config gate moves) : s ∈ picked analyzer config gate moves := by
  have hs := List.mem_map_of_mem (f := Prod.snd) h
  cases consults_reached analyzer config gate moves with
  | all hp => exact hp ▸ hs
  | next _ hp => exact hp ▸ List.mem_append_left _ hs

theorem publishes_in_order {moves : List Move} {s : Snapshot} {payload : P}
    (h : (reached analyzer config gate moves).stage? = some (.judged s (.found payload))) :
    ((reached analyzer config gate moves).store.publish s payload).2 ≠ .superseded := by
  have hp := paced_reached analyzer config gate moves
  have hs : (reached analyzer config gate moves).analysing? = some s := by
    rw [analysing?, h]
    rfl
  obtain ⟨init,hinit⟩ := List.getLast?_eq_some_iff.mp (hp.newest s hs)
  refine Store.publish_in_order fun l hl hg old hold => ?_
  obtain ⟨_,_,call,s',hc⟩ := (sourced_reached analyzer config gate moves).findings l
    (Store.find?_spec hl).1 old hold
  have hs' := consulted_picked hc.called
  rw [hinit, List.mem_append, List.mem_singleton] at hs'
  rw [← hc.same_version]
  rcases hs' with hs' | rfl
  · have hrise := hp.rising
    rw [hinit] at hrise
    exact (List.pairwise_append.mp hrise).2.2 s' hs' s (List.mem_singleton.mpr rfl)
      (hc.same_generation.trans hg)
  · exact Version.le_refl _

theorem hands_open {moves : List Move} {id : DocumentId} {rest : List DocumentId} (stage : Stage P)
    (h : (reached analyzer config gate moves).queue.order = id :: rest) :
    ∃ l, ((reached analyzer config gate moves).store.absorb stage.verdict?).find? id = some l ∧
      ((reached analyzer config gate moves).store.absorb stage.verdict?).firstOpen? (id :: rest) =
        some (l.snapshot,rest) := by
  have hv := (orderly_reached analyzer config gate moves).valid
  have hid := queued_open analyzer config gate moves id (h ▸ List.mem_cons_self)
  obtain ⟨l,hl,rfl⟩ := Store.contains_iff_openLifetimes.mp hid
  obtain ⟨l',hl',hl'id⟩ := hv.absorb_after stage.verdict? hl
  obtain ⟨hm,ho⟩ := Store.mem_openLifetimes.mp hl'
  have hf := (hv.absorb stage.verdict?).find?_eq hm ho
  rw [hl'id] at hf
  exact ⟨l', hf, by simp only [Store.firstOpen?, hf]⟩

theorem picks_newest {moves : List Move} {m : Move} {s : Snapshot}
    (h : (reached analyzer config gate moves).picked? ⟨analyzer, config.updates⟩ m.engine = some s) :
    (reached analyzer config gate moves).queue.order =
        s.id :: (reached analyzer config gate (moves ++ [m])).queue.order ∧
      ∃ l, (reached analyzer config gate moves).store.find? s.id = some l ∧ l.snapshot = s := by
  have hp := picked?_some (orderly_reached analyzer config gate moves)
    (staffed_reached analyzer config gate moves) h
  rw [← reached_concat] at hp
  have hv := (orderly_reached analyzer config gate moves).valid
  obtain ⟨stage,_,hs⟩ := hp.stage
  obtain ⟨l',hl',hsnap⟩ := hp.newest
  obtain ⟨l,hl,hll⟩ := hv.absorb_find? stage.verdict? (hs ▸ hl')
  refine ⟨?_, l, hl, hll.trans hsnap⟩
  obtain ⟨skipped,horder,hskip⟩ := hp.first
  cases skipped with
  | nil => exact horder
  | cons id skipped =>
    obtain ⟨k,hk,_⟩ := hands_open stage horder
    rw [← hs, hskip id List.mem_cons_self] at hk
    simp at hk

theorem stays_queued {first edits : List Move} {id : DocumentId} {l : Lifetime P}
    (hq : ∀ mid tail, edits = mid ++ tail → id ∈ (reached analyzer config gate (first ++ mid)).queue.order)
    (hl : (reached analyzer config gate first).store.find? id = some l) :
    (∃ k, (reached analyzer config gate (first ++ edits)).store.find? id = some k ∧ l.Evolves k) ∧
      ∀ s ∈ picked analyzer config gate (first ++ edits), s.generation = l.generation →
        s ∈ picked analyzer config gate first := by
  induction edits using List.reverseRecOn with
  | nil =>
    rw [List.append_nil]
    exact ⟨⟨l,hl,.refl l⟩, fun s hs _ => hs⟩
  | append_singleton edits m ih =>
    have hqueued := hq (edits ++ [m]) [] (List.append_nil _).symm
    obtain ⟨⟨k,hk,hlk⟩,hpicked⟩ := ih fun mid tail h => hq mid (tail ++ [m]) (by rw [h]; simp)
    have ho := orderly_reached analyzer config gate (first ++ edits)
    have hst := staffed_reached analyzer config gate (first ++ edits)
    rw [← List.append_assoc] at hqueued ⊢
    constructor
    · have hm := moved ⟨analyzer, config.updates⟩ ho m.engine
      rw [← reached_concat] at hm
      rcases hm.change.find? ho.valid hk with ⟨k',hk',he⟩ | hnone
      · exact ⟨k', hk', hlk.trans he⟩
      · obtain ⟨x,hx⟩ := Store.contains_iff.mp (queued_open analyzer config gate _ id hqueued)
        rw [hnone] at hx
        simp at hx
    · intro s hs hg
      rw [picked_concat, List.mem_append, Option.mem_toList] at hs
      rcases hs with hs | hs
      · exact hpicked s hs hg
      obtain ⟨horder,x,hx,rfl⟩ := picks_newest hs
      obtain ⟨hxm,hxid,_⟩ := Store.find?_spec hx
      obtain ⟨hkm,hkid,_⟩ := Store.find?_spec hk
      have hxk : x = k := ho.valid.eq_of_generation hxm hkm (hg.trans hlk.generation.symm)
      have hnodup := (lossless_reached analyzer config gate _ (picked?_some ho hst hs).running).sound.nodup
      rw [horder] at hnodup
      refine absurd hqueued ?_
      rw [← hkid, ← hxk]
      exact (List.nodup_cons.mp hnodup).1

theorem taken_up {moves : List Move} {m : Move} {id : DocumentId} {k : Lifetime P}
    (hk : (reached analyzer config gate moves).store.find? id = some k)
    (hq : id ∈ (reached analyzer config gate moves).queue.order)
    (hid : id ∉ (reached analyzer config gate (moves ++ [m])).queue.order)
    (hrun : (reached analyzer config gate (moves ++ [m])).stopped = false)
    (hc : (reached analyzer config gate (moves ++ [m])).store.contains id = true) :
    (reached analyzer config gate moves).picked? ⟨analyzer, config.updates⟩ m.engine =
      some k.snapshot := by
  have ho := orderly_reached analyzer config gate moves
  have hst := staffed_reached analyzer config gate moves
  rw [reached_concat] at hid hrun hc
  obtain ⟨s,rfl,hs,hfree⟩ := (acts _ hst m).leaves_queue ho.valid hst.shut hq hid hrun hc
  have hp := (picked?_iff ho hst m).mpr ⟨hs,hfree⟩
  obtain ⟨_,x,hx,rfl⟩ := picks_newest hp
  cases hx.symm.trans hk
  exact hp

theorem coalesced {first edits rest : List Move} {m : Move} {id : DocumentId} {l : Lifetime P}
    (hq : ∀ mid tail, edits = mid ++ tail → id ∈ (reached analyzer config gate (first ++ mid)).queue.order)
    (hl : (reached analyzer config gate first).store.find? id = some l)
    (hid : id ∉ (reached analyzer config gate (first ++ edits ++ [m])).queue.order)
    (hrun : (reached analyzer config gate (first ++ edits ++ [m])).stopped = false)
    (hc : (reached analyzer config gate (first ++ edits ++ [m])).store.contains id = true)
    (hn : ¬ Requested analyzer config gate (first ++ edits ++ m :: rest) l.generation) :
    ∃ k, (reached analyzer config gate (first ++ edits)).store.find? id = some k ∧
      k.generation = l.generation ∧
      (picked analyzer config gate (first ++ edits ++ m :: rest)).filter (fun s =>
        s.generation = l.generation ∧ l.version ≤ s.version ∧ s.version ≤ k.version) = [k.snapshot] := by
  obtain ⟨⟨k,hk,hlk⟩,hpicked⟩ := stays_queued hq hl
  refine ⟨k, hk, hlk.generation, ?_⟩
  have htaken := taken_up hk (hq edits [] (List.append_nil _).symm) hid hrun hc
  obtain ⟨later,hlater⟩ : ∃ later, picked analyzer config gate (first ++ edits ++ m :: rest) =
      picked analyzer config gate (first ++ edits) ++ k.snapshot :: later := by
    obtain ⟨later,hlater⟩ := picked_append analyzer config gate (first ++ edits ++ [m]) rest
    rw [picked_concat, htaken] at hlater
    exact ⟨later, by simpa using hlater⟩
  have hearlier : ∀ s ∈ picked analyzer config gate (first ++ edits), s.generation = l.generation →
      s.version < l.version := by
    intro s hs hg
    obtain ⟨hlm,hlid,hlo⟩ := Store.find?_spec hl
    refine (sparing_reached analyzer config gate first).fresh l (Store.mem_openLifetimes.mpr ⟨hlm,hlo⟩)
      ?_ ?_ s (hpicked s hs hg) hg
    · intro h
      have happ := h.append (edits ++ m :: rest)
      rw [← List.append_assoc] at happ
      exact hn happ
    · have hqueued := hq [] edits rfl
      rw [List.append_nil] at hqueued
      exact hlid ▸ hqueued
  have honce := (sparing_reached analyzer config gate (first ++ edits ++ m :: rest)).once
  rw [hlater, List.pairwise_append, List.pairwise_cons] at honce
  have hafter : ∀ s ∈ later, s.generation = l.generation → k.version < s.version := by
    intro s hs hg
    refine honce.2.1.1 s hs (hlk.generation.trans hg.symm) ?_
    change ¬ Requested _ _ _ _ k.generation
    rwa [hlk.generation]
  rw [hlater, List.filter_append, List.filter_cons_of_pos, List.filter_eq_nil_iff.mpr,
    List.filter_eq_nil_iff.mpr]
  · rfl
  · intro s hs
    simp only [decide_eq_true_eq]
    exact fun ⟨hg,_,hle⟩ => Version.not_le_of_lt (hafter s hs hg) hle
  · intro s hs
    simp only [decide_eq_true_eq]
    exact fun ⟨hg,hle,_⟩ => Version.not_le_of_lt (hearlier s hs hg) hle
  · simp only [decide_eq_true_eq]
    exact ⟨hlk.generation, hlk.version, Version.le_refl _⟩

variable (analyzer config gate) in
theorem one_analysis_at_a_time (moves : List Move) :
    let e := reached analyzer config gate moves
    let picked := picked analyzer config gate moves
    let analysed := (consulted analyzer config gate moves).map (·.2)
    (∀ u u' owner owner' s s' c c', e.activity? u = some (.analysis owner s c) →
      e.activity? u' = some (.analysis owner' s' c') → u = u' ∧ e.stage? = some (.underway s)) ∧
    (picked = analysed ∨
      ∃ u s, e.activity? u = some (.analysis 0 s none) ∧ picked = analysed ++ [s]) ∧
    (∀ m s, e.picked? ⟨analyzer, config.updates⟩ m.engine = some s →
      e.queue.order = s.id :: (reached analyzer config gate (moves ++ [m])).queue.order ∧
        ∃ l, e.store.find? s.id = some l ∧ l.snapshot = s) ∧
    picked.Pairwise (fun s s' => s.generation = s'.generation → s.version ≤ s'.version) ∧
    (∀ s payload, e.stage? = some (.judged s (.found payload)) →
      (e.store.publish s payload).2 ≠ .superseded) ∧
    (∀ id rest stage, e.queue.order = id :: rest → e.stage? = some stage →
      ∃ l, (e.store.absorb stage.verdict?).find? id = some l ∧
        (e.store.absorb stage.verdict?).firstOpen? (id :: rest) = some (l.snapshot,rest)) ∧
    picked.Pairwise (fun s s' => s.generation = s'.generation →
      ¬ Requested analyzer config gate moves s.generation → s.version < s'.version) ∧
    ∀ first edits m rest id l, moves = first ++ edits ++ m :: rest →
      (∀ mid tail, edits = mid ++ tail →
        id ∈ (reached analyzer config gate (first ++ mid)).queue.order) →
      (reached analyzer config gate first).store.find? id = some l →
      ¬ Requested analyzer config gate moves l.generation →
      let after := reached analyzer config gate (first ++ edits ++ [m])
      id ∉ after.queue.order → after.stopped = false → after.store.contains id = true →
      ∃ k, (reached analyzer config gate (first ++ edits)).store.find? id = some k ∧
        k.generation = l.generation ∧ picked.filter (fun s => s.generation = l.generation ∧
          l.version ≤ s.version ∧ s.version ≤ k.version) = [k.snapshot] := by
  intro e picked analysed
  have hst : e.Staffed := staffed_reached analyzer config gate moves
  refine ⟨?_, ?_, fun m s => picks_newest, (paced_reached analyzer config gate moves).rising,
    fun s payload => publishes_in_order, fun id rest stage h _ => hands_open stage h,
    (sparing_reached analyzer config gate moves).once, ?_⟩
  · intro u u' owner owner' s s' c c' hu hu'
    obtain ⟨rfl,hs⟩ := hst.of_analysis hu
    obtain ⟨rfl,_⟩ := hst.of_analysis hu'
    exact ⟨hst.sole _ _ _ _ _ _ hu hu', hs⟩
  · cases consults_reached analyzer config gate moves with
    | all h _ => exact Or.inl h
    | next hu h => exact Or.inr ⟨_,_,hu,h⟩
  · rintro first edits m rest id l hmoves hq hl hn after hid hrun hc
    subst hmoves
    exact coalesced hq hl hid hrun hc hn

theorem one_analysis_at_a_time_coalesced :
    let analyzer : Analyzer String := fun _ text _ => .found text
    let id : DocumentId := ⟨"file:///d"⟩
    let first : List Move := [.ask (.openDocument id "a")]
    let edits : List Move := [.ask (.change id "b"), .ask (.change id "c")]
    let rest : List Move := [.turn 0, .turn 0]
    let moves := first ++ edits ++ .turn 0 :: rest
    (∀ mid tail, edits = mid ++ tail → id ∈ (reached analyzer {} none (first ++ mid)).queue.order) ∧
    ¬ Requested analyzer {} none moves 1 ∧
    (picked analyzer {} none moves).filter (fun s =>
      s.generation = 1 ∧ Version.baseline ≤ s.version ∧ s.version ≤ ⟨2⟩) = [⟨id,"c",⟨2⟩,1⟩] := by
  intro analyzer id first edits rest moves
  have hq : ∀ mid tail, edits = mid ++ tail →
      id ∈ (reached analyzer {} none (first ++ mid)).queue.order := by
    intro mid tail h
    have hall : ∀ mid ∈ edits.inits, id ∈ (reached analyzer {} none (first ++ mid)).queue.order := by
      decide +kernel
    exact hall mid ((List.mem_inits _ _).mpr ⟨tail,h.symm⟩)
  have hn : ¬ Requested analyzer {} none moves 1 := by
    rintro ⟨before,m,later,hmoves,x,hx,_⟩
    have hm : m ∈ moves := hmoves ▸ List.mem_append_right _ List.mem_cons_self
    simp only [moves, first, edits, rest, List.cons_append, List.nil_append, List.mem_cons,
      List.not_mem_nil, or_false] at hm
    rcases hm with rfl | rfl | rfl | rfl | rfl | rfl <;> simp [requested] at hx
  have hl : (reached analyzer {} none first).store.find? id = some ⟨id,1,"a",.baseline,{}⟩ := by
    decide +kernel
  obtain ⟨_,_,_,_,_,_,_,hone⟩ := one_analysis_at_a_time analyzer {} none moves
  obtain ⟨k,hk,_,hpicked⟩ := hone first edits (.turn 0) rest id _ rfl hq hl hn (by decide +kernel)
    (by decide +kernel) (by decide +kernel)
  have hlast : (reached analyzer {} none (first ++ edits)).store.find? id =
      some ⟨id,1,"c",⟨2⟩,{}⟩ := by
    decide +kernel
  cases hk.symm.trans hlast
  exact ⟨hq, hn, hpicked⟩

end Service

end LiveAnalysis
