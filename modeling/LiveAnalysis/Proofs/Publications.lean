import LiveAnalysis.Proofs.Histories
import LiveAnalysis.Proofs.Releases

namespace LiveAnalysis

variable {P : Type}

def offered (id : DocumentId) (generation : Nat) (ops : List (Operation P)) : List (Finding P) :=
  ops.filterMap fun
    | .publish s payload =>
      if s.id = id ∧ s.generation = generation then some ⟨s.id, s.version, payload⟩ else none
    | _ => none

namespace Engine

def snapshot? (e : Engine P) (op : Operation P) : Option Snapshot :=
  match (e.perform op).2 with
  | .snapshot s => some s
  | _ => none

/-- Findings are published under snapshots that were taken before, however long ago. -/
def publishesKept (e : Engine P) (kept : List Snapshot) : List (Operation P) → Bool
  | [] => true
  | op :: ops =>
    (match op with
      | .publish s _ => kept.contains s
      | _ => true) && (e.perform op).1.publishesKept (kept ++ (e.snapshot? op).toList) ops

theorem snapshot?_spec {e : Engine P} {op : Operation P} {k : Snapshot} (h : e.snapshot? op = some k) :
    ∃ id l, op = .snapshot id ∧ e.store.find? id = some l ∧ k = l.snapshot := by
  unfold snapshot? at h
  cases op with
  | openDocument id text =>
    rcases e.perform_open id text with ⟨_,_,hp⟩ | ⟨_,hp,_⟩ <;> simp [hp] at h
  | change id text =>
    rcases e.perform_change id text with ⟨_,hp⟩ | ⟨_,_,hp,_⟩ <;> simp [hp] at h
  | close id =>
    rcases e.perform_close id with ⟨_,hp⟩ | ⟨_,_,hp,_⟩ <;> simp [hp] at h
  | get id | version id =>
    simp only [perform, look, Store.get] at h
    cases hl : e.store.find? id <;> simp [hl] at h
  | subscribe id =>
    simp only [(e.perform_subscribe id).2, look, Store.get] at h
    cases hl : e.store.find? id <;> simp [hl] at h
  | snapshot id =>
    simp only [perform, look, Store.get] at h
    cases hl : e.store.find? id with
    | none => simp [hl] at h
    | some l =>
      simp only [hl, Option.some.injEq] at h
      exact ⟨id, l, rfl, hl, h.symm⟩
  | contains id | ids => simp [perform] at h
  | publish s payload => simp [perform] at h

end Engine

theorem offered_append (id : DocumentId) (generation : Nat) (ops ops' : List (Operation P)) :
    offered id generation (ops ++ ops') = offered id generation ops ++ offered id generation ops' :=
  List.filterMap_append

theorem offered_publish_of_ne {id : DocumentId} {generation : Nat} {s : Snapshot}
    (h : ¬(s.id = id ∧ s.generation = generation)) (ops : List (Operation P)) (payload : P) :
    offered id generation (ops ++ [.publish s payload]) = offered id generation ops := by
  have hone : offered id generation [.publish s payload] = [] := by simp [offered, h]
  rw [offered_append, hone, List.append_nil]

namespace Store

variable {s : Store P} {snap : Snapshot} {l : Lifetime P}

theorem publish_stale (h : ∀ l, s.find? snap.id = some l → l.generation ≠ snap.generation) (payload : P) :
    s.publish snap payload = (s, .closed) := by
  unfold publish
  cases hl : s.find? snap.id with
  | none => rfl
  | some l => exact if_neg (h l hl)

theorem publish_open (hl : s.find? snap.id = some l) (hg : l.generation = snap.generation) (payload : P) :
    s.publish snap payload =
      (s.update l.generation fun x => { x with slot := (l.slot.publish ⟨snap.id, snap.version, payload⟩).1 },
        (l.slot.publish ⟨snap.id, snap.version, payload⟩).2) := by
  simp only [publish, hl, hg, if_true]

theorem Valid.ofGeneration?_updated (h : s.Valid) (hl : l ∈ s.lifetimes) {f : Lifetime P → Lifetime P}
    (hf : ∀ x, (f x).generation = x.generation) (generation : Nat) :
    (s.update l.generation f).ofGeneration? generation =
      if generation = l.generation then some (f l) else s.ofGeneration? generation := by
  rw [ofGeneration?_update s l.generation generation f hf]
  split
  · rename_i hg
    rw [hg, h.ofGeneration?_eq hl, Option.map_some, if_pos rfl]
  · rename_i hg
    cases hx : s.ofGeneration? generation with
    | none => rfl
    | some x =>
      have hne : x.generation ≠ l.generation := (ofGeneration?_spec hx).2.trans_ne hg
      rw [Option.map_some, if_neg hne]

theorem Valid.publish_outcomes (h : s.Valid) (snap : Snapshot) (payload : P) :
    (∀ l, s.find? snap.id = some l → l.generation ≠ snap.generation) ∧ s.publish snap payload = (s, .closed) ∨
    ∃ l, s.find? snap.id = some l ∧ l.generation = snap.generation ∧
      ((∃ old, l.slot.latest = some old ∧ snap.version < old.version) ∧ s.publish snap payload = (s, .superseded) ∨
        (∀ old, l.slot.latest = some old → old.version ≤ snap.version) ∧
          s.publish snap payload = (s.update l.generation fun x =>
            { x with slot := { l.slot with latest := some ⟨snap.id, snap.version, payload⟩ } }, .stored)) := by
  by_cases hopen : ∃ l, s.find? snap.id = some l ∧ l.generation = snap.generation
  · obtain ⟨l,hl,hg⟩ := hopen
    obtain ⟨hm,_,ho⟩ := find?_spec hl
    refine Or.inr ⟨l, hl, hg, ?_⟩
    rw [publish_open hl hg]
    rcases l.slot.publish_cases ⟨snap.id, snap.version, payload⟩ with ⟨hc,_⟩ | ⟨_,hold,hp⟩ | ⟨_,hle,hp⟩
    · simp [Lifetime.isOpen, hc] at ho
    · refine Or.inl ⟨hold, ?_⟩
      rw [hp, h.update_self hm rfl]
    · refine Or.inr ⟨hle, ?_⟩
      rw [hp]
  · have hstale : ∀ l, s.find? snap.id = some l → l.generation ≠ snap.generation :=
      fun l hl hg => hopen ⟨l, hl, hg⟩
    exact Or.inl ⟨hstale, publish_stale hstale payload⟩

end Store

namespace Engine

variable {e : Engine P} (hv : e.store.Valid) (s : Snapshot) (payload : P)

include hv

theorem publish_closed_iff : (e.publish s payload).2 = .closed ↔
    ∀ l, e.store.find? s.id = some l → l.generation ≠ s.generation := by
  change (e.store.publish s payload).2 = .closed ↔ _
  rcases hv.publish_outcomes s payload with ⟨hstale,hp⟩ | ⟨l,hl,hg,⟨_,hp⟩ | ⟨_,hp⟩⟩ <;> rw [hp]
  · exact iff_of_true rfl hstale
  · exact iff_of_false (by simp) fun hstale => hstale l hl hg
  · exact iff_of_false (by simp) fun hstale => hstale l hl hg

theorem publish_superseded_iff : (e.publish s payload).2 = .superseded ↔
    ∃ l old, e.store.find? s.id = some l ∧ l.generation = s.generation ∧ l.slot.latest = some old ∧
      s.version < old.version := by
  change (e.store.publish s payload).2 = .superseded ↔ _
  rcases hv.publish_outcomes s payload with ⟨hstale,hp⟩ | ⟨l,hl,hg,⟨⟨old,hold,hlt⟩,hp⟩ | ⟨hle,hp⟩⟩ <;> rw [hp]
  · refine iff_of_false (by simp) ?_
    rintro ⟨l,_,hl,hg,_⟩
    exact hstale l hl hg
  · exact iff_of_true rfl ⟨l, old, hl, hg, hold, hlt⟩
  · refine iff_of_false (by simp) ?_
    rintro ⟨l',old,hl',_,hold,hlt⟩
    cases hl.symm.trans hl'
    exact Version.not_le_of_lt hlt (hle old hold)

theorem publish_dropped (h : (e.publish s payload).2 ≠ .stored) : (e.publish s payload).1 = e := by
  change (e.store.publish s payload).2 ≠ .stored at h
  unfold publish
  rcases hv.publish_outcomes s payload with ⟨_,hp⟩ | ⟨_,_,_,⟨_,hp⟩ | ⟨_,hp⟩⟩
  · simp [hp]
  · simp [hp]
  · exact absurd (congrArg Prod.snd hp) h

theorem publish_stored (h : (e.publish s payload).2 = .stored) :
    ∃ l, e.store.find? s.id = some l ∧ l.generation = s.generation ∧
      (∀ old, l.slot.latest = some old → old.version ≤ s.version) ∧
      let stored : Lifetime P := { l with slot := { l.slot with latest := some ⟨s.id, s.version, payload⟩ } }
      (∀ id, (e.publish s payload).1.store.find? id = if id = s.id then some stored else e.store.find? id) ∧
      ∀ generation, (e.publish s payload).1.store.ofGeneration? generation =
        if generation = s.generation then some stored else e.store.ofGeneration? generation := by
  change (e.store.publish s payload).2 = .stored at h
  rcases hv.publish_outcomes s payload with ⟨_,hp⟩ | ⟨l,hl,hg,⟨_,hp⟩ | ⟨hle,hp⟩⟩
  · simp [hp] at h
  · simp [hp] at h
  · obtain ⟨hm,_,ho⟩ := Store.find?_spec hl
    let f : Lifetime P → Lifetime P := fun x =>
      { x with slot := { l.slot with latest := some ⟨s.id, s.version, payload⟩ } }
    have hstored : (e.publish s payload).1.store = e.store.update l.generation f := by
      rw [publish_store, hp]
    have hf : ∀ x, (f x).generation = x.generation := fun _ => rfl
    have he : l.Evolves (f l) := l.evolves_store ⟨s.id, s.version, payload⟩ ho hle
    have hopen : (f l).isOpen = true := ho
    refine ⟨l, hl, hg, hle, fun id => ?_, fun generation => ?_⟩
    · rw [hstored, hv.find?_updated hl hf he, if_pos hopen]
    · rw [hstored, ← hg]
      exact hv.ofGeneration?_updated hm hf generation

end Engine

structure Store.Published (s : Store P) (kept : List Snapshot) (past : List (Operation P)) : Prop where
  valid : s.Valid
  begun : ∀ k ∈ kept, k.generation ≤ s.lifetimes.length
  unborn : ∀ id generation, s.lifetimes.length < generation → offered id generation past = []
  holds : ∀ l ∈ s.lifetimes, l.isOpen = true → l.slot.Holds (offered l.id l.generation past)

namespace Store.Published

variable {s s' : Store P} {kept : List Snapshot} {past : List (Operation P)} {op : Operation P}

theorem new : (({} : Store P)).Published [] [] where
  valid := valid_empty
  begun _ hk := absurd hk List.not_mem_nil
  unborn _ _ _ := rfl
  holds _ hl := absurd hl List.not_mem_nil

theorem keep (h : s.Published kept past) {more : List Snapshot}
    (hm : ∀ k ∈ more, k.generation ≤ s.lifetimes.length) : s.Published (kept ++ more) past :=
  { h with begun := fun k hk => (List.mem_append.mp hk).elim (h.begun k) (hm k) }

-- A lifetime that begins was offered nothing before it, since its generation is larger than those of all kept snapshots.
theorem quiet (h : s.Published kept past) (hop : ∀ id generation, offered id generation [op] = []) (hv : s'.Valid)
    (hlen : s.lifetimes.length ≤ s'.lifetimes.length)
    (hcame : ∀ l' ∈ s'.lifetimes, l'.isOpen = true →
      (∃ l ∈ s.lifetimes, l.isOpen = true ∧ l'.id = l.id ∧ l'.generation = l.generation ∧ l'.slot = l.slot) ∨
      (s.lifetimes.length < l'.generation ∧ l'.slot = {})) :
    s'.Published kept (past ++ [op]) := by
  have hsame : ∀ id generation, offered id generation (past ++ [op]) = offered id generation past :=
    fun id generation => by rw [offered_append, hop, List.append_nil]
  refine ⟨hv, fun k hk => Nat.le_trans (h.begun k hk) hlen, fun id generation hg => ?_, fun l' hl' ho' => ?_⟩
  · rw [hsame]
    exact h.unborn id generation (Nat.lt_of_le_of_lt hlen hg)
  · rw [hsame]
    rcases hcame l' hl' ho' with ⟨l,hl,ho,hid,hg,hslot⟩ | ⟨hg,hslot⟩
    · rw [hid, hg, hslot]
      exact h.holds l hl ho
    · rw [hslot, h.unborn _ _ hg]
      exact ⟨fun _ => rfl, fun f hf => by simp at hf⟩

theorem same (h : s.Published kept past) (hop : ∀ id generation, offered id generation [op] = []) :
    s.Published kept (past ++ [op]) :=
  h.quiet hop h.valid (Nat.le_refl _) fun l hl ho => Or.inl ⟨l, hl, ho, rfl, rfl, rfl⟩

theorem opened (h : s.Published kept past) {id : DocumentId} (hn : s.find? id = none) (text : String) :
    (⟨{ id, generation := s.lifetimes.length + 1, text } :: s.lifetimes⟩ : Store P).Published kept
      (past ++ [.openDocument id text]) := by
  refine h.quiet (fun _ _ => rfl) ((Change.opened (p := fun _ _ => True) id text hn).valid h.valid)
    (Nat.le_succ _) fun l' hl' ho' => ?_
  rcases List.mem_cons.mp hl' with rfl | hl'
  · exact Or.inr ⟨Nat.lt_succ_self _, rfl⟩
  · exact Or.inl ⟨l', hl', ho', rfl, rfl, rfl⟩

theorem updated (h : s.Published kept past) (hop : ∀ id generation, offered id generation [op] = []) {id : DocumentId}
    {l : Lifetime P} (hl : s.find? id = some l) {f : Lifetime P → Lifetime P}
    (hf : ∀ x, (f x).generation = x.generation) (he : l.Evolves (f l))
    (hslot : (f l).isOpen = true → (f l).slot = l.slot) : (s.update l.generation f).Published kept (past ++ [op]) := by
  obtain ⟨hm,_,ho⟩ := find?_spec hl
  have hlen : (s.update l.generation f).lifetimes.length = s.lifetimes.length := by simp [Store.update]
  refine h.quiet hop (h.valid.update hm hf he) (Nat.le_of_eq hlen.symm) fun l' hl' ho' => Or.inl ?_
  rcases (h.valid.mem_update hm).mp hl' with rfl | ⟨hl',_⟩
  · exact ⟨l, hm, ho, he.id, he.generation, hslot ho'⟩
  · exact ⟨l', hl', ho', rfl, rfl, rfl⟩

theorem publish (h : s.Published kept past) {snap : Snapshot} (hk : snap ∈ kept) (payload : P) :
    (s.publish snap payload).1.Published kept (past ++ [.publish snap payload]) := by
  have hunborn : ∀ id generation, s.lifetimes.length < generation →
      offered id generation (past ++ [.publish snap payload]) = [] := by
    intro id generation hg
    rw [offered_publish_of_ne, h.unborn id generation hg]
    rintro ⟨_,rfl⟩
    exact Nat.not_lt.mpr (h.begun snap hk) hg
  have hother : ∀ l ∈ s.lifetimes, l.isOpen = true → ¬(snap.id = l.id ∧ snap.generation = l.generation) →
      l.slot.Holds (offered l.id l.generation (past ++ [.publish snap payload])) := by
    intro l hl ho hne
    rw [offered_publish_of_ne hne]
    exact h.holds l hl ho
  by_cases hopen : ∃ l, s.find? snap.id = some l ∧ l.generation = snap.generation
  · obtain ⟨l,hl,hg⟩ := hopen
    obtain ⟨hm,hid,ho⟩ := find?_spec hl
    have hclosed : l.slot.closed = false := by simpa [Lifetime.isOpen] using ho
    have hv := h.valid.published snap payload
    rw [publish_open hl hg] at hv ⊢
    have hlen : ∀ f, (s.update l.generation f).lifetimes.length = s.lifetimes.length := by simp [Store.update]
    refine ⟨hv, fun k hk => (hlen _).symm ▸ h.begun k hk, fun id generation hlt =>
      hunborn id generation (hlen _ ▸ hlt), fun l' hl' ho' => ?_⟩
    rcases (h.valid.mem_update hm).mp hl' with rfl | ⟨hl',hne⟩
    · have hlast : offered l.id l.generation [.publish snap payload] = [⟨snap.id, snap.version, payload⟩] := by
        simp [offered, hid, hg]
      rw [offered_append, hlast]
      exact (h.holds l hm ho).publish hclosed _
    · exact hother l' hl' ho' fun he => hne (he.2.symm.trans hg.symm)
  · have hstale : ∀ l, s.find? snap.id = some l → l.generation ≠ snap.generation :=
      fun l hl hg => hopen ⟨l, hl, hg⟩
    rw [publish_stale hstale]
    refine ⟨h.valid, h.begun, hunborn, fun l hl ho => hother l hl ho fun he => ?_⟩
    exact hstale l (he.1 ▸ h.valid.find?_eq hl ho) he.2.symm

variable {e : Engine P}

theorem perform (h : e.store.Published kept past) (hk : ∀ snap payload, op = .publish snap payload → snap ∈ kept) :
    (e.perform op).1.store.Published kept (past ++ [op]) := by
  cases op with
  | openDocument id text =>
    rcases e.perform_open id text with ⟨_,_,hp⟩ | ⟨hn,_,hs⟩
    · rw [hp]
      exact h.same fun _ _ => rfl
    · rw [hs]
      exact h.opened hn text
  | change id text =>
    rcases e.perform_change id text with ⟨_,hp⟩ | ⟨l,hl,_,hs⟩
    · rw [hp]
      exact h.same fun _ _ => rfl
    · rw [hs]
      exact h.updated (fun _ _ => rfl) hl (fun _ => rfl)
        (l.evolves_change text (find?_spec hl).2.2) fun _ => rfl
  | close id =>
    rcases e.perform_close id with ⟨_,hp⟩ | ⟨l,hl,_,hs⟩
    · rw [hp]
      exact h.same fun _ _ => rfl
    · rw [hs]
      exact h.updated (fun _ _ => rfl) hl (fun _ => rfl)
        (l.evolves_close (find?_spec hl).2.2) fun ho => by simp [Lifetime.isOpen, Slot.close] at ho
  | subscribe id =>
    rw [(e.perform_subscribe id).1]
    exact h.same fun _ _ => rfl
  | publish snap payload =>
    rw [show (e.perform (.publish snap payload)).1.store = _ from e.publish_store snap payload]
    exact h.publish (hk snap payload rfl) payload
  | get id | version id | contains id | ids | snapshot id => exact h.same fun _ _ => rfl

theorem performAll {ops : List (Operation P)} (h : e.store.Published kept past) (hk : e.publishesKept kept ops = true) :
    ∃ kept', (e.performAll ops).store.Published kept' (past ++ ops) := by
  induction ops generalizing e kept past with
  | nil => exact ⟨kept, (List.append_nil past).symm ▸ h⟩
  | cons op ops ih =>
    obtain ⟨hop,hrest⟩ := Bool.and_eq_true_iff.mp hk
    have hstep : (e.perform op).1.store.Published kept (past ++ [op]) := by
      refine h.perform ?_
      rintro snap payload rfl
      exact List.contains_iff_mem.mp hop
    have hnext : (e.perform op).1.store.Published (kept ++ (e.snapshot? op).toList) (past ++ [op]) := by
      refine hstep.keep fun k hk => ?_
      obtain ⟨id,l,rfl,hl,rfl⟩ := Engine.snapshot?_spec (Option.mem_toList.mp hk)
      exact (h.valid.bounded l (find?_spec hl).1).2
    have hall := ih hnext hrest
    rwa [List.append_assoc] at hall

end Store.Published

namespace Slot

variable {s s' : Slot P} {fs fs' : List (Finding P)}

theorem Newest.mem {f : Finding P} (h : Newest fs f) : f ∈ fs := by
  obtain ⟨before,later,rfl,_⟩ := h
  simp

theorem Holds.latest_eq_none (h : s.Holds fs) : s.latest = none ↔ fs = [] := by
  refine ⟨h.nothing, ?_⟩
  rintro rfl
  cases hl : s.latest with
  | none => rfl
  | some f => exact absurd (h.newest f hl).mem List.not_mem_nil

theorem Holds.version_eq (h : s.Holds fs) (h' : s'.Holds fs') (hp : fs.Perm fs') :
    s.latest.map (·.version) = s'.latest.map (·.version) := by
  have hnone : s.latest = none ↔ s'.latest = none := by
    rw [h.latest_eq_none, h'.latest_eq_none]
    exact ⟨fun hn => (hn ▸ hp).nil_eq.symm, fun hn => (hn ▸ hp).eq_nil⟩
  cases hl : s.latest with
  | none => rw [hnone.mp hl]
  | some f =>
    cases hl' : s'.latest with
    | none => simp [hnone.mpr hl'] at hl
    | some f' =>
      have hf := h.newest f hl
      have hf' := h'.newest f' hl'
      have hle : f.version ≤ f'.version := hf'.all_le (hp.mem_iff.mp hf.mem)
      have hge : f'.version ≤ f.version := hf.all_le (hp.mem_iff.mpr hf'.mem)
      exact congrArg some (Version.le_antisymm hle hge)

end Slot

namespace Engine

theorem publications_confined {e : Engine P} (he : e.store = {}) {ops : List (Operation P)}
    (hk : e.publishesKept [] ops = true) :
    let now := e.performAll ops
    (∀ s payload,
      ((now.publish s payload).2 = .closed ↔
        ∀ l, now.store.find? s.id = some l → l.generation ≠ s.generation) ∧
      ((now.publish s payload).2 = .superseded ↔
        ∃ l old, now.store.find? s.id = some l ∧ l.generation = s.generation ∧ l.slot.latest = some old ∧
          s.version < old.version) ∧
      ((now.publish s payload).2 ≠ .stored → (now.publish s payload).1 = now) ∧
      ((now.publish s payload).2 = .stored →
        ∃ l, now.store.find? s.id = some l ∧ l.generation = s.generation ∧
          (∀ old, l.slot.latest = some old → old.version ≤ s.version) ∧
          let stored : Lifetime P := { l with slot := { l.slot with latest := some ⟨s.id, s.version, payload⟩ } }
          (∀ id, (now.publish s payload).1.store.find? id =
            if id = s.id then some stored else now.store.find? id) ∧
          ∀ generation, (now.publish s payload).1.store.ofGeneration? generation =
            if generation = s.generation then some stored else now.store.ofGeneration? generation)) ∧
    (∀ id l, now.store.find? id = some l → l.slot.Holds (offered id l.generation ops)) ∧
    ∀ (e' : Engine P) (ops' : List (Operation P)) (id : DocumentId) (l l' : Lifetime P),
      e'.store = {} → e'.publishesKept [] ops' = true →
      now.store.find? id = some l → (e'.performAll ops').store.find? id = some l' →
      (offered id l.generation ops).Perm (offered id l'.generation ops') →
        l.slot.latest.map (·.version) = l'.slot.latest.map (·.version) := by
  have hrun : ∀ (e : Engine P) (ops : List (Operation P)), e.store = {} → e.publishesKept [] ops = true →
      ∃ kept, (e.performAll ops).store.Published kept ops := fun e ops he hk =>
    (he ▸ Store.Published.new : e.store.Published [] []).performAll hk
  have hholds : ∀ (e : Engine P) (ops : List (Operation P)), e.store = {} → e.publishesKept [] ops = true →
      ∀ id l, (e.performAll ops).store.find? id = some l → l.slot.Holds (offered id l.generation ops) := by
    intro e ops he hk id l hl
    obtain ⟨kept,h⟩ := hrun e ops he hk
    obtain ⟨hm,rfl,ho⟩ := Store.find?_spec hl
    exact h.holds l hm ho
  intro now
  obtain ⟨kept,h⟩ := hrun e ops he hk
  refine ⟨fun s payload => ?_, hholds e ops he hk, fun e' ops' id l l' he' hk' hl hl' hp => ?_⟩
  · exact ⟨publish_closed_iff h.valid s payload, publish_superseded_iff h.valid s payload,
      publish_dropped h.valid s payload, publish_stored h.valid s payload⟩
  · exact (hholds e ops he hk id l hl).version_eq (hholds e' ops' he' hk' id l' hl') hp

-- The same findings in another order, and one more after the document was opened again.
theorem publications_confined_reopened :
    let a : DocumentId := ⟨"file:///a"⟩
    let old : Snapshot := ⟨a,"x",⟨0⟩,1⟩
    let new : Snapshot := ⟨a,"y",⟨1⟩,1⟩
    let taken : List (Operation Nat) := [.openDocument a "x", .snapshot a, .change a "y", .snapshot a]
    let ops := taken ++ [.publish new 1, .publish old 2, .publish new 3]
    let ops' := taken ++ [.publish old 2, .publish new 3, .publish new 1]
    let again := ops ++ [.close a, .openDocument a "z"]
    let l : Lifetime Nat := ⟨a,1,"y",⟨1⟩,⟨some ⟨a,⟨1⟩,3⟩,false⟩⟩
    let l' : Lifetime Nat := ⟨a,1,"y",⟨1⟩,⟨some ⟨a,⟨1⟩,1⟩,false⟩⟩
    let e : Engine Nat := {}
    e.store = {} ∧ e.publishesKept [] ops = true ∧ e.publishesKept [] ops' = true ∧
    (e.performAll ops).store.find? a = some l ∧ (e.performAll ops').store.find? a = some l' ∧
    l.slot.Holds [⟨a,⟨1⟩,1⟩,⟨a,⟨0⟩,2⟩,⟨a,⟨1⟩,3⟩] ∧ l.slot.latest.map (·.version) = l'.slot.latest.map (·.version) ∧
    ((e.performAll ops).publish old 4).1 = e.performAll ops ∧
    e.publishesKept [] again = true ∧ ((e.performAll again).publish new 5).2 = .closed := by
  intro a old new taken ops ops' again l l' e
  have hk : e.publishesKept [] ops = true := by decide +kernel
  have hk' : e.publishesKept [] ops' = true := by decide +kernel
  have hagain : e.publishesKept [] again = true := by decide +kernel
  have hl : (e.performAll ops).store.find? a = some l := by decide +kernel
  have hl' : (e.performAll ops').store.find? a = some l' := by decide +kernel
  obtain ⟨hpublish,hholds,horder⟩ := publications_confined (e := e) rfl hk
  obtain ⟨_,hsuperseded,hdropped,_⟩ := hpublish old 4
  have hold : ((e.performAll ops).publish old 4).2 = .superseded :=
    hsuperseded.mpr ⟨l, _, hl, rfl, rfl, by decide⟩
  have hclosed : ((e.performAll again).publish new 5).2 = .closed := by
    refine ((publications_confined (e := e) rfl hagain).1 new 5).1.mpr fun k hk => ?_
    have hz : (e.performAll again).store.find? a = some ⟨a,2,"z",⟨0⟩,{}⟩ := by decide +kernel
    cases hk.symm.trans hz
    decide
  have hsame : l.slot.latest.map (·.version) = l'.slot.latest.map (·.version) :=
    horder e ops' a l l' rfl hk' hl hl' (by decide +kernel)
  exact ⟨rfl, hk, hk', hl, hl', hholds a l hl, hsame, hdropped (by simp [hold]), hagain, hclosed⟩

end Engine

end LiveAnalysis
