import LiveAnalysis.Proofs.Frames

namespace LiveAnalysis

variable {P : Type}

def Activity.isWorker : Activity P → Bool
  | .loop _ => true
  | .process _ _ => true
  | _ => false

def Activity.isUnderway : Activity P → Bool
  | .loop (.underway _) => true
  | .process _ (.underway _) => true
  | _ => false

inductive Activity.begins (s : Snapshot) : Activity P → Prop where
  | loop : begins s (.loop (.underway s))
  | process (id : DocumentId) : begins s (.process id (.underway s))

def Activity.verdict? : Activity P → Option (Snapshot × Verdict P)
  | .loop (.judged s verdict) => some (s, verdict)
  | .process _ (.judged s verdict) => some (s, verdict)
  | _ => none

namespace Engine

def Concludes (e : Engine P) (t : Ticket) (s : Snapshot) (verdict : Verdict P) : Prop :=
  ∃ a, e.activity? t = some a ∧ a.verdict? = some (s,verdict)

inductive Arises (w : Worker P) (e e' : Engine P) (t : Ticket) : Ticket → Activity P → Prop where
  | kept {u a} (h : e.activity? u = some a) : Arises w e e' t u a
  | parked {stage} (h : e.activity? t = some (.loop stage)) : Arises w e e' t t (.loop .idle)
  | taken {stage l} (h : e.activity? t = some (.loop stage)) (hl : e'.store.find? l.id = some l) :
    Arises w e e' t t (.loop (.underway l.snapshot))
  | opened {id l} (h : e.activity? t = some (.process id .idle)) (hl : e'.store.find? id = some l) :
    Arises w e e' t t (.process id (.underway l.snapshot))
  | begun {a b l} (h : e.activity? t = some a) (ha : a.isWorker = true) (hf : a.isUnderway = false)
    (hl : e'.store.find? l.id = some l) (hb : e'.activity? t = some b) (hs : b.begins l.snapshot)
    (hn : e.tickets < e'.tickets) : Arises w e e' t e.tickets (.analysis t l.snapshot none)
  | asked {owner s} (h : e.activity? t = some (.analysis owner s none)) :
    Arises w e e' t t (.analysis owner s (some (e.calls + 1)))
  | judgedLoop {owner s c stage} (h : e.activity? t = some (.analysis owner s c))
    (ho : e.activity? owner = some (.loop stage)) :
    Arises w e e' t owner
      (.loop (.judged s (w.analyzer (c.getD (e.calls + 1)) s.text s.version)))
  | judgedProcess {owner s c id stage} (h : e.activity? t = some (.analysis owner s c))
    (ho : e.activity? owner = some (.process id stage)) :
    Arises w e e' t owner
      (.process id (.judged s (w.analyzer (c.getD (e.calls + 1)) s.text s.version)))
  | watching {v l a} (h : e.activity? t = some a) (ha : a.isCaller = true)
    (hl : e'.store.find? v.id = some l) (hg : v.generation = l.generation)
    (hp : ∀ text n, v.goal = .paired text n → v.atLeast = l.version ∧ text = l.text) :
    Arises w e e' t t (.watch v)
  | closing (h : e.activity? t = some (.shutdown false)) : Arises w e e' t t (.shutdown true)

structure Onward (e e' : Engine P) : Prop where
  tickets : e.tickets ≤ e'.tickets
  ready : ∀ u ∈ e.ready, u ∈ e'.ready
  stopped : e.stopped = true → e'.stopped = true
  abandoned : e'.abandoned = e.abandoned
  cancelled : e'.cancelled = e.cancelled
  clock : e'.clock = e.clock
  alarmed : e'.alarmed = e.alarmed
  calls : e.calls ≤ e'.calls

structure Turned (w : Worker P) (e : Engine P) (t : Ticket) (e' : Engine P) : Prop
    extends Onward e e' where
  change : e.store.Change (fun s payload => e.Concludes t s (.found payload)) e'.store
  arises : ∀ u a, e'.activity? u = some a → Arises w e e' t u a
  others : ∀ u a, u ≠ t → e.activity? u = some a → e'.activity? u = some a ∨
    a.isWorker = true ∧ ∃ s c, e.activity? t = some (.analysis u s c)
  alert : ∀ u v, u ≠ t → e.activity? u = some (.watch v) → e.Alert u v e'
  ended : e'.ended = e.ended ∨ ∃ x, e'.ended = e.ended ++ [(t,x)] ∧ e'.activity? t = none

theorem Onward.keeps {e e₁ e₂ : Engine P} (h : Onward e e₁) (k : e₁.Keeps e₂) : Onward e e₂ where
  tickets := k.tickets ▸ h.tickets
  ready u hu := k.ready u (h.ready u hu)
  stopped hs := k.stopped.trans (h.stopped hs)
  abandoned := k.abandoned.trans h.abandoned
  cancelled := k.cancelled.trans h.cancelled
  clock := k.clock.trans h.clock
  alarmed := k.alarmed.trans h.alarmed
  calls := k.calls ▸ h.calls

theorem Onward.refl (e : Engine P) : Onward e e :=
  ⟨Nat.le_refl _, fun _ h => h, fun h => h, rfl, rfl, rfl, rfl, Nat.le_refl _⟩

theorem Arises.same {w : Worker P} {e e₁ e₂ : Engine P} {t u : Ticket} {a : Activity P}
    (h : Arises w e e₁ t u a) (ha : ∀ u, e₂.activity? u = e₁.activity? u)
    (hs : e₂.store = e₁.store) (ht : e₂.tickets = e₁.tickets) : Arises w e e₂ t u a := by
  cases h with
  | kept h => exact .kept h
  | parked h => exact .parked h
  | taken h hl => exact .taken h (hs ▸ hl)
  | opened h hl => exact .opened h (hs ▸ hl)
  | begun h ha' hf hl hb hs' hn =>
    exact .begun h ha' hf (hs ▸ hl) (ha t ▸ hb) hs' (ht ▸ hn)
  | asked h => exact .asked h
  | judgedLoop h ho => exact .judgedLoop h ho
  | judgedProcess h ho => exact .judgedProcess h ho
  | watching h ha hl hg hp => exact .watching h ha (hs ▸ hl) hg hp
  | closing h => exact .closing h

theorem Arises.of_store {w : Worker P} {e e₁ e₂ : Engine P} {t u : Ticket} {a : Activity P}
    (h : Arises w e e₁ t u a) (ht : e₁.tickets = e.tickets) (hs : e₂.store = e₁.store) :
    Arises w e e₂ t u a := by
  cases h with
  | kept h => exact .kept h
  | parked h => exact .parked h
  | taken h hl => exact .taken h (hs ▸ hl)
  | opened h hl => exact .opened h (hs ▸ hl)
  | begun h ha hf hl hb hs' hn => exact absurd ht (Nat.ne_of_gt hn)
  | asked h => exact .asked h
  | judgedLoop h ho => exact .judgedLoop h ho
  | judgedProcess h ho => exact .judgedProcess h ho
  | watching h ha hl hg hp => exact .watching h ha (hs ▸ hl) hg hp
  | closing h => exact .closing h

namespace Turned

variable {w : Worker P} {e e₁ e₂ : Engine P} {t : Ticket}

theorem keeps (h : Turned w e t e₁) (k : e₁.Keeps e₂) (hs : e₂.store = e₁.store) :
    Turned w e t e₂ where
  change := hs ▸ h.change
  arises u a hu := (h.arises u a (k.activity? u ▸ hu)).same k.activity? hs k.tickets
  others u a hu ha := by
    rw [k.activity? u]
    exact h.others u a hu ha
  alert u v hu ha := (h.alert u v hu ha).keeps k hs
  ended := by
    rw [k.ended, k.activity? t]
    exact h.ended
  toOnward := h.toOnward.keeps k

theorem of_change (k : e.Keeps e₁)
    (hc : e.store.Change (fun s payload => e.Concludes t s (.found payload)) e₁.store)
    (ha : ∀ u v, e.activity? u = some (.watch v) → e.Alert u v e₁) :
    Turned w e t e₁ where
  change := hc
  arises u a hu := .kept (k.activity? u ▸ hu)
  others u a _ ha := Or.inl (by rw [k.activity? u]; exact ha)
  alert u v _ hu := ha u v hu
  ended := Or.inl k.ended
  toOnward := (Onward.refl e).keeps k

theorem of_keeps (k : e.Keeps e₁) (hs : e₁.store = e.store) : Turned w e t e₁ :=
  .of_change k (hs ▸ .same) fun u v _ => (Alert.refl e u v).keeps k hs

theorem finish (h : Turned w e t e₁) (he : e₁.ended = e.ended ∧ e₁.tickets = e.tickets) (x : Ending P) :
    Turned w e t (e₁.finish t x) where
  change := h.change
  arises u a hu := by
    rw [activity?_finish] at hu
    split at hu
    · simp at hu
    · exact (h.arises u a hu).of_store he.2 rfl
  others u a hu ha := by
    rw [activity?_finish, if_neg hu]
    exact h.others u a hu ha
  alert := h.alert
  ended := Or.inr ⟨x, congrArg (· ++ [(t,x)]) he.1, by simp [activity?_finish]⟩
  toOnward := { h.toOnward with }

theorem set (h : Turned w e t e₁) (he : e₁.ended = e.ended ∧ e₁.tickets = e.tickets) {a : Activity P}
    (ha : Arises w e e₁ t t a) : Turned w e t (e₁.set t a) where
  change := h.change
  arises u b hu := by
    rw [activity?_set] at hu
    split at hu
    · rename_i hut
      subst hut
      obtain ⟨_,_,rfl⟩ := Option.map_eq_some_iff.mp hu
      exact ha.of_store he.2 rfl
    · exact (h.arises u b hu).of_store he.2 rfl
  others u b hu hb := by
    rw [activity?_set, if_neg hu]
    exact h.others u b hu hb
  alert := h.alert
  ended := Or.inl he.1
  toOnward := { h.toOnward with }

theorem begin (h : Turned w e t e₁) (he : e₁.ended = e.ended ∧ e₁.tickets = e.tickets)
    {a b : Activity P} (hw : e.activity? t = some a) (ha : a.isWorker = true)
    (hf : a.isUnderway = false) {l : Lifetime P} (hl : e₁.store.find? l.id = some l)
    (hb : e₁.activity? t = some b) (hs : b.begins l.snapshot) :
    Turned w e t (e₁.begin t l.snapshot) where
  change := h.change
  arises u b hu := by
    rw [Engine.begin, activity?_start, Option.or_eq_some_iff] at hu
    rcases hu with hu | ⟨_,hu⟩
    · exact (h.arises u b hu).of_store he.2 rfl
    · split at hu
      · rename_i hut
        rw [hut, he.2, ← Option.some.inj hu]
        refine .begun hw ha hf hl ?_ hs (he.2 ▸ Nat.lt_succ_self _)
        rw [Engine.begin, activity?_start, hb]
        rfl
      · simp at hu
  others u b hu hb := by
    rcases h.others u b hu hb with ho | ho
    · left
      rw [Engine.begin, activity?_start, ho]
      rfl
    · exact Or.inr ho
  alert u v hu hb l hl := (h.alert u v hu hb l hl).imp_left (List.mem_append_left _)
  ended := Or.inl he.1
  toOnward := { h.toOnward with
    tickets := Nat.le_succ_of_le h.tickets
    ready := fun u hu => List.mem_append_left _ (h.ready u hu) }

end Turned

variable (w : Worker P)

theorem turned_take (e : Engine P) (t : Ticket) : Turned w e t (e.takeTurn t) := by
  unfold takeTurn
  dsimp only
  have hb : Turned w e t { e with bell := e.bell.answer t } := .of_keeps (e.keeps_bell _) rfl
  split
  · rename_i queue _ _
    exact (hb.keeps (keeps_queue _ queue) rfl).finish ⟨rfl,rfl⟩ _
  · exact hb.finish ⟨rfl,rfl⟩ _
  · exact hb.keeps (keeps_bell _ ((e.bell.answer t).wait t)) rfl

theorem conclude_change {e : Engine P} (hv : e.store.Valid) {t : Ticket} {s : Snapshot}
    {verdict : Verdict P} (h : e.Concludes t s verdict) :
    e.store.Change (fun s payload => e.Concludes t s (.found payload))
      (conclude w e s verdict).1.store := by
  cases verdict with
  | failed reason => exact .same
  | panicked => exact .same
  | found payload =>
    have hp := hv.publish_change (p := fun s payload => e.Concludes t s (.found payload)) h
    rw [← publish_store] at hp
    simp only [conclude]
    split <;> exact hp

theorem turned_endLoop {e e₁ : Engine P} {t : Ticket} (h : Turned w e t e₁)
    (he : e₁.ended = e.ended ∧ e₁.tickets = e.tickets) : Turned w e t (e₁.endLoop t) := by
  unfold endLoop
  dsimp only
  have hf := (h.keeps (e₁.keeps_bell (e₁.bell.leave t).1) rfl).finish he (.stopped)
  exact (hf.keeps (keeps_wakeSome _ _) (wakeSome_store _ _)).keeps (keeps_wakeAll _ _)
    (wakeAll_store _ _)

theorem activity?_set_self {e : Engine P} {t : Ticket} {a : Activity P} (b : Activity P)
    (h : e.activity? t = some a) : (e.set t b).activity? t = some b := by
  rw [activity?_set, if_pos rfl, h]
  rfl

theorem turned_seek {e e₁ : Engine P} {t : Ticket} (h : Turned w e t e₁)
    (he : e₁.ended = e.ended ∧ e₁.tickets = e.tickets) {stage : Stage P}
    (hw : e.activity? t = some (.loop stage)) (hw₁ : e₁.activity? t = some (.loop stage))
    (hu : (Activity.loop stage).isUnderway = false) : Turned w e t (e₁.seek t) := by
  unfold seek
  dsimp only
  have hb : Turned w e t { e₁ with bell := e₁.bell.answer t } := h.keeps (e₁.keeps_bell _) rfl
  split
  · exact turned_endLoop w h he
  split
  · exact turned_endLoop w hb he
  split
  · rename_i s rest hf
    obtain ⟨_,l,_,hl,rfl,_⟩ := Store.firstOpen?_some hf
    have hq := hb.keeps (keeps_queue _ (e₁.queue.leave rest)) rfl
    exact (hq.set he (.taken hw hl)).begin he hw rfl hu hl (activity?_set_self _ hw₁) (.loop)
  · have hq := hb.keeps (keeps_queue _ (e₁.queue.leave [])) rfl
    exact (hq.keeps (keeps_bell _ ((e₁.bell.answer t).wait t)) rfl).set he (.parked hw)

theorem turned_loop {e : Engine P} (hv : e.store.Valid) {t : Ticket} {stage : Stage P}
    (hw : e.activity? t = some (.loop stage)) : Turned w e t (e.loopTurn w t stage) := by
  cases stage with
  | idle => exact turned_seek w (.of_keeps (.refl e) rfl) ⟨rfl,rfl⟩ hw hw rfl
  | underway s => exact .of_keeps (.refl e) rfl
  | judged s verdict =>
    have hk := keeps_conclude w e s verdict
    have hc := conclude_change w hv ⟨_,hw,rfl⟩
    exact turned_seek w (.of_change hk hc (alert_conclude w hv s verdict)) ⟨hk.ended,hk.tickets⟩ hw
      ((hk.activity? t).trans hw) rfl

theorem turned_process {e : Engine P} (hv : e.store.Valid) {t : Ticket} {id : DocumentId}
    {stage : Stage P} (hw : e.activity? t = some (.process id stage)) :
    Turned w e t (e.processTurn w t id stage) := by
  have hr : Turned w e t e := .of_keeps (.refl e) rfl
  cases stage with
  | idle =>
    simp only [processTurn]
    split
    · exact hr.finish ⟨rfl,rfl⟩ _
    · rename_i l hl
      have hl' : e.store.find? l.id = some l := (Store.find?_spec hl).2.1 ▸ hl
      exact (hr.set ⟨rfl,rfl⟩ (.opened hw hl)).begin ⟨rfl,rfl⟩ hw rfl rfl hl' (activity?_set_self _ hw)
        (.process id)
  | underway s => exact hr
  | judged s verdict =>
    have hk := keeps_conclude w e s verdict
    exact (Turned.of_change hk (conclude_change w hv ⟨_,hw,rfl⟩)
      (alert_conclude w hv s verdict)).finish ⟨hk.ended,hk.tickets⟩ _

theorem activity?_deliver (e : Engine P) (owner u : Ticket) (s : Snapshot) (verdict : Verdict P) :
    (e.deliver owner s verdict).activity? u =
      if u = owner then
        match e.activity? owner with
        | some (.loop _) => some (.loop (.judged s verdict))
        | some (.process id _) => some (.process id (.judged s verdict))
        | a => a
      else e.activity? u := by
  have hset : ∀ a b, e.activity? owner = some a →
      ((e.set owner b).wake owner).activity? u = if u = owner then some b else e.activity? u := by
    intro a b ha
    rw [wake_eq]
    refine (e.activity?_set owner u b).trans ?_
    by_cases hu : u = owner
    · rw [if_pos hu, if_pos hu, hu, ha, Option.map_some]
    · rw [if_neg hu, if_neg hu]
  have hkept : e.activity? u = if u = owner then e.activity? owner else e.activity? u := by
    by_cases hu : u = owner
    · rw [if_pos hu, hu]
    · rw [if_neg hu]
  unfold deliver
  cases ha : e.activity? owner with
  | none => exact hkept.trans (by simp only [ha])
  | some a =>
    cases a with
    | loop stage => exact hset _ _ ha
    | process id stage => exact hset _ _ ha
    | _ => exact hkept.trans (by simp only [ha])

theorem deliver_eq (e : Engine P) (owner : Ticket) (s : Snapshot) (verdict : Verdict P) :
    ∃ activities ready, e.deliver owner s verdict = { e with activities, ready } ∧
      ∀ u ∈ e.ready, u ∈ ready := by
  unfold deliver
  split
  · rw [wake_eq]
    exact ⟨_,_,rfl,fun u hu => mem_woken.mpr (Or.inl hu)⟩
  · rw [wake_eq]
    exact ⟨_,_,rfl,fun u hu => mem_woken.mpr (Or.inl hu)⟩
  · exact ⟨e.activities,e.ready,rfl,fun u hu => hu⟩

theorem turned_judge {e e₁ : Engine P} {t owner : Ticket} {s : Snapshot} {c : Option Nat}
    (h : Turned w e t e₁) (ha : ∀ u, e₁.activity? u = e.activity? u)
    (he : e₁.ended = e.ended ∧ e₁.tickets = e.tickets)
    (hw : e.activity? t = some (.analysis owner s c)) :
    Turned w e t (e₁.judge w t owner s (c.getD (e.calls + 1))) := by
  obtain ⟨activities,ready,hd,hr⟩ := (e₁.remove t).deliver_eq owner s
    (w.analyzer (c.getD (e.calls + 1)) s.text s.version)
  have hu : ∀ u, (e₁.judge w t owner s (c.getD (e.calls + 1))).activity? u = _ := fun u =>
    (e₁.remove t).activity?_deliver owner u s (w.analyzer (c.getD (e.calls + 1)) s.text s.version)
  simp only [activity?_remove, ha] at hu
  refine { toOnward := ?_, change := ?_, arises := ?_, others := ?_, alert := ?_, ended := ?_ }
  · rw [judge, hd]
    exact { h.toOnward with ready := fun u hu => hr u (h.ready u hu) }
  · rw [judge, hd]
    exact h.change
  · intro u a hu'
    rw [hu u] at hu'
    split at hu'
    · rename_i ho
      subst ho
      split at hu'
      · rename_i ho
        split at ho
        · simp at ho
        · cases hu'
          exact .judgedLoop hw ho
      · rename_i ho
        split at ho
        · simp at ho
        · cases hu'
          exact .judgedProcess hw ho
      · split at hu'
        · simp at hu'
        · exact .kept hu'
    · split at hu'
      · simp at hu'
      · exact .kept hu'
  · intro u a hut hua
    rw [hu u]
    by_cases ho : u = owner
    · subst ho
      cases a with
      | loop stage => exact Or.inr ⟨rfl,s,c,hw⟩
      | process id stage => exact Or.inr ⟨rfl,s,c,hw⟩
      | _ => left; simp [hut, hua]
    · left; simp [ho, hut, hua]
  · rw [judge, hd]
    exact fun u v hut hu l hl => (h.alert u v hut hu l hl).imp_left (hr u)
  · rw [judge, hd]
    exact Or.inl he.1

theorem turned_gate (e : Engine P) (t : Ticket) (gate : Option Gate) (calls : Nat)
    (h : e.calls ≤ calls) : Turned w e t { e with gate, calls } where
  change := .same
  arises _ _ hu := .kept hu
  others _ _ _ hu := Or.inl hu
  alert u v _ _ := .refl e u v
  ended := Or.inl rfl
  toOnward := { Onward.refl e with calls := h }

theorem turned_analysis {e : Engine P} {t owner : Ticket} {s : Snapshot} {c : Option Nat}
    (hw : e.activity? t = some (.analysis owner s c)) :
    Turned w e t (e.analysisTurn w t owner s c) := by
  have hg : ∀ gate, Turned w e t { e with gate, calls := e.calls + 1 } := fun gate =>
    turned_gate w e t gate _ (Nat.le_succ _)
  cases c with
  | some call => exact turned_judge w (.of_keeps (.refl e) rfl) (fun _ => rfl) ⟨rfl,rfl⟩ hw
  | none =>
    simp only [analysisTurn]
    split
    · rename_i hn
      have h := hg none
      exact turned_judge w (turned_gate w e t e.gate _ (Nat.le_succ _)) (fun _ => rfl) ⟨rfl,rfl⟩ hw
    · split
      · exact turned_judge w (hg _) (fun _ => rfl) ⟨rfl,rfl⟩ hw
      · exact (hg _).set ⟨rfl,rfl⟩ (.asked hw)

theorem turned_wait (e : Engine P) (t : Ticket) (place : Nat) (atLeast : Version) :
    Turned w e t (e.waitTurn t place atLeast) := by
  have hr : ∀ lines, Turned w e t { e with lines } := fun lines =>
    .of_keeps ⟨rfl,rfl,rfl,rfl,rfl,rfl,rfl,rfl,rfl,fun _ h => h⟩ rfl
  have he : ∀ lines, ({ e with lines } : Engine P).ended = e.ended ∧
      ({ e with lines } : Engine P).tickets = e.tickets := fun _ => ⟨rfl,rfl⟩
  unfold waitTurn
  split
  · exact .of_keeps (.refl e) rfl
  · dsimp only
    split
    · exact hr _
    · exact ((hr _).finish (he _) _).keeps (keeps_wakeSome _ _) (wakeSome_store _ _)

theorem newWatch_ok {e : Engine P} {id : DocumentId} {atLeast : Option Version} {timeout : Nat}
    {token : Option Token} {goal : Goal} {v : Watch} :
    e.newWatch id atLeast timeout token goal = .ok v ↔ e.stopped = false ∧
      ∃ l, e.store.find? id = some l ∧
        v = { id, generation := l.generation, atLeast := atLeast.getD l.version, timeout,
              deadline := e.alarmIn timeout, token, goal } := by
  unfold newWatch ensureRunning Store.get
  cases e.stopped <;> cases e.store.find? id <;>
    simp [bind, Except.bind, pure, Except.pure, eq_comm]

theorem current_ok {e : Engine P} {v : Watch} {f : Finding P} {text text' : String}
    {version : Version} :
    (if f.version = v.atLeast then .ok (text,v.atLeast)
      else (e.store.get v.id).map fun l => (l.text,l.version)) =
        (.ok (text',version) : Except Refusal (String × Version)) ↔
      (f.version = v.atLeast ∧ text' = text ∧ version = v.atLeast) ∨
      (f.version ≠ v.atLeast ∧ ∃ l, e.store.find? v.id = some l ∧ text' = l.text ∧
        version = l.version) := by
  by_cases hf : f.version = v.atLeast
  · simp [hf, eq_comm]
  · unfold Store.get
    cases e.store.find? v.id <;> simp [hf, Except.map, eq_comm]

/-! What the turn of a wait comes to: it ends, or it goes on as a watch that nothing ends yet. -/

structure Renewed (e : Engine P) (v v' : Watch) : Prop where
  token : v'.token = v.token
  current : ∃ l n, e.store.find? v'.id = some l ∧ v'.generation = l.generation ∧ v'.atLeast = l.version ∧
    v'.goal = .paired l.text n

theorem pair_cases (e : Engine P) (t : Ticket) (v : Watch) (text : String) (n : Nat) (f : Finding P) :
    (∃ x, e.pair t v text n f = e.finish t x) ∨
      ∃ v', e.pair t v text n f = e.set t (.watch v') ∧ e.outcome? v' = none ∧ e.Renewed v v' := by
  induction n generalizing v text f with
  | zero =>
    unfold pair
    dsimp only
    split
    · exact Or.inl ⟨_,rfl⟩
    · split <;> exact Or.inl ⟨_,rfl⟩
  | succ n ih =>
    unfold pair
    dsimp only
    split
    · exact Or.inl ⟨_,rfl⟩
    · rename_i text' version hc
      split
      · exact Or.inl ⟨_,rfl⟩
      · rename_i hne
        split
        · exact Or.inl ⟨_,rfl⟩
        · rename_i v' hv
          obtain ⟨_,l,hl,rfl⟩ := newWatch_ok.mp hv
          obtain ⟨rfl,rfl⟩ : text' = l.text ∧ version = l.version := by
            rcases current_ok.mp hc with ⟨hf,_,rfl⟩ | ⟨_,l',hl',rfl,rfl⟩
            · exact absurd hf hne
            · cases hl.symm.trans hl'
              exact ⟨rfl,rfl⟩
          split
          · exact Or.inr ⟨_, rfl, ‹_›, rfl, l, n, hl, rfl, rfl, rfl⟩
          · exact Or.inl ⟨_,rfl⟩
          · rename_i f' _
            rcases ih _ l.text f' with hx | ⟨v',hv',ho,hr⟩
            · exact Or.inl hx
            · exact Or.inr ⟨v', hv', ho, hr.token, hr.current⟩

theorem watchTurn_cases (e : Engine P) (t : Ticket) (v : Watch) :
    (∃ x, e.watchTurn t v = e.finish t x) ∨
      ∃ v', e.watchTurn t v = e.set t (.watch v') ∧ e.outcome? v' = none ∧
        (v' = v ∨ v.goal ≠ .finding ∧ e.Renewed v v') := by
  unfold watchTurn
  split
  · exact Or.inr ⟨v, rfl, ‹_›, Or.inl rfl⟩
  · exact Or.inl ⟨_,rfl⟩
  · split
    · exact Or.inl ⟨_,rfl⟩
    · rename_i text n hg
      rcases e.pair_cases t v text n _ with hx | ⟨v',hv',ho,hr⟩
      · exact Or.inl hx
      · exact Or.inr ⟨v', hv', ho, Or.inr ⟨by simp [hg], hr⟩⟩

theorem watchFrom_cases (e : Engine P) (t : Ticket) (id : DocumentId) (atLeast : Option Version)
    (timeout : Nat) (token : Option Token) (goal : Goal) :
    (∃ x, e.watchFrom t id atLeast timeout token goal = e.finish t x) ∨
      ∃ v, e.watchFrom t id atLeast timeout token goal = e.set t (.watch v) ∧ e.outcome? v = none ∧
        v.token = token ∧ (goal = .finding → v.goal = .finding) := by
  unfold watchFrom
  split
  · exact Or.inl ⟨_,rfl⟩
  · rename_i v hv
    obtain ⟨_,l,_,rfl⟩ := newWatch_ok.mp hv
    rcases e.watchTurn_cases t _ with hx | ⟨v',hv',ho,rfl | ⟨hg,hr⟩⟩
    · exact Or.inl hx
    · exact Or.inr ⟨_, hv', ho, rfl, fun h => h⟩
    · exact Or.inr ⟨v', hv', ho, hr.token, fun h => absurd h hg⟩

section Waiting

variable {e e₁ : Engine P} {t : Ticket} {a : Activity P} (hw : e.activity? t = some a)
  (ha : a.isCaller = true) (h : Turned w e t e₁) (he : e₁.ended = e.ended ∧ e₁.tickets = e.tickets)

include hw ha h he

theorem turned_outcome {v : Watch} (hv : Arises w e e₁ t t (.watch v)) :
    Turned w e t (e₁.watchTurn t v) := by
  rcases e₁.watchTurn_cases t v with ⟨x,hx⟩ | ⟨v',hx,_,rfl | ⟨_,hr⟩⟩ <;> rw [hx]
  · exact h.finish he x
  · exact h.set he hv
  · obtain ⟨l,n,hl,hg,hver,hgoal⟩ := hr.current
    refine h.set he (.watching hw ha hl hg fun text m ht => ?_)
    cases hgoal.symm.trans ht
    exact ⟨hver,rfl⟩

theorem turned_watchFrom (id : DocumentId) (atLeast : Option Version) (timeout : Nat)
    (token : Option Token) (goal : Goal)
    (hp : ∀ l, e₁.store.find? id = some l → ∀ text n, goal = .paired text n →
      atLeast.getD l.version = l.version ∧ text = l.text) :
    Turned w e t (e₁.watchFrom t id atLeast timeout token goal) := by
  unfold watchFrom
  split
  · exact h.finish he _
  · rename_i v hv
    obtain ⟨_,l,hl,rfl⟩ := newWatch_ok.mp hv
    exact turned_outcome w hw ha h he (.watching hw ha hl rfl (hp l hl))

end Waiting

theorem noteOpened_ok {e e' : Engine P} {id : DocumentId} {text : String} :
    e.noteOpened id text = .ok e' ↔ e.stopped = false ∧
      ∃ e₁, e.openDocument id text = .ok e₁ ∧ e' = e₁.emit (.opened id) := by
  unfold noteOpened ensureRunning
  cases e.stopped <;> cases e.openDocument id text <;>
    simp [bind, Except.bind, pure, Except.pure, eq_comm]

theorem noteChanged_ok {e e' : Engine P} {id : DocumentId} {text : String} {v : Version} :
    e.noteChanged id text = .ok (e',v) ↔ e.stopped = false ∧ e.change id text = .ok (e',v) := by
  unfold noteChanged ensureRunning
  cases e.stopped <;> simp [bind, Except.bind]

theorem noteClosed_ok {e e' : Engine P} {id : DocumentId} :
    e.noteClosed id = .ok e' ↔ e.stopped = false ∧
      ∃ e₁, e.close id = .ok e₁ ∧ e' = e₁.emit (.closed id) := by
  unfold noteClosed ensureRunning
  cases e.stopped <;> cases e.close id <;>
    simp [bind, Except.bind, pure, Except.pure, eq_comm]

theorem requestAnalysis_ok {e e' : Engine P} {id : DocumentId} {outcome : Enqueued} :
    e.requestAnalysis id = .ok (e',outcome) ↔ e.stopped = false ∧
      (∃ l, e.store.find? id = some l) ∧ e.enqueue id = (e',outcome) := by
  unfold requestAnalysis ensureRunning Store.get
  cases e.stopped <;> cases e.store.find? id <;>
    simp [bind, Except.bind, pure, Except.pure]

theorem keeps_noteOpened {e e' : Engine P} {id : DocumentId} {text : String}
    (h : e.noteOpened id text = .ok e') : e.Keeps e' := by
  obtain ⟨_,e₁,h₁,rfl⟩ := noteOpened_ok.mp h
  exact (keeps_openDocument h₁).trans (keeps_emit _ _)

theorem keeps_noteChanged {e e' : Engine P} {id : DocumentId} {text : String} {v : Version}
    (h : e.noteChanged id text = .ok (e',v)) : e.Keeps e' :=
  keeps_change (noteChanged_ok.mp h).2

theorem keeps_noteClosed {e e' : Engine P} {id : DocumentId} (h : e.noteClosed id = .ok e') :
    e.Keeps e' := by
  obtain ⟨_,e₁,h₁,rfl⟩ := noteClosed_ok.mp h
  exact (keeps_close h₁).trans (keeps_emit _ _)

inductive Noted (e : Engine P) : Engine P → Prop where
  | nothing : Noted e e
  | opened {id text e₁} (h : e.noteOpened id text = .ok e₁) : Noted e e₁
  | changed {id text e₁ v} (h : e.noteChanged id text = .ok (e₁,v)) : Noted e e₁

theorem Noted.keeps {e e' : Engine P} (h : e.Noted e') : e.Keeps e' := by
  cases h with
  | nothing => exact .refl e
  | opened h => exact keeps_noteOpened h
  | changed h => exact keeps_noteChanged h

theorem callTurn_cases (e : Engine P) (t : Ticket) (c : Call) :
    (∃ x, e.callTurn t c = e.finish t x) ∨
      ∃ e₁ id atLeast timeout token goal, e.Noted e₁ ∧
        e.callTurn t c = e₁.watchFrom t id atLeast timeout token goal ∧
        (c = .wait id atLeast timeout token ∧ goal = .finding ∨
          token = none ∧ ∀ id' atLeast' timeout' token', c ≠ .wait id' atLeast' timeout' token') := by
  cases c with
  | wait id atLeast timeout token =>
    exact Or.inr ⟨_, _, _, _, _, _, .nothing, rfl, Or.inl ⟨rfl,rfl⟩⟩
  | openAndWait id text timeout =>
    simp only [callTurn]
    split
    · exact Or.inl ⟨_,rfl⟩
    · rename_i h
      exact Or.inr ⟨_, _, _, _, _, _, .opened h, rfl, Or.inr ⟨rfl, by simp⟩⟩
  | changeAndWait id text timeout =>
    simp only [callTurn]
    split
    · exact Or.inl ⟨_,rfl⟩
    · rename_i h
      exact Or.inr ⟨_, _, _, _, _, _, .changed h, rfl, Or.inr ⟨rfl, by simp⟩⟩
  | query id timeout =>
    simp only [callTurn]
    split
    · exact Or.inl ⟨_,rfl⟩
    · exact Or.inr ⟨_, _, _, _, _, _, .nothing, rfl, Or.inr ⟨rfl, by simp⟩⟩

section Documents

variable {p : Snapshot → P → Prop} {e e' : Engine P} {id : DocumentId}

theorem noteOpened_store {text : String} (h : e.noteOpened id text = .ok e') :
    e.store.openDocument id text = .ok e'.store := by
  obtain ⟨_,e₁,h₁,rfl⟩ := noteOpened_ok.mp h
  obtain ⟨store,hs,rfl⟩ := openDocument_ok.mp h₁
  rw [hs, emit, enqueue_store]

theorem noteChanged_store {text : String} {v : Version} (h : e.noteChanged id text = .ok (e',v)) :
    e.store.change id text = .ok (e'.store,v) := by
  obtain ⟨_,h₁⟩ := noteChanged_ok.mp h
  obtain ⟨store,hs,rfl⟩ := change_ok.mp h₁
  rw [hs, enqueue_store]

theorem noteClosed_store (h : e.noteClosed id = .ok e') :
    ∃ g, e.store.close id = .ok (e'.store,g) := by
  obtain ⟨_,e₁,h₁,rfl⟩ := noteClosed_ok.mp h
  obtain ⟨store,g,hs,rfl⟩ := close_ok.mp h₁
  exact ⟨g, by rw [hs, emit, wakeAll_store]⟩

end Documents

theorem alert_noteOpened {e e' : Engine P} (hv : e.store.Valid) {id : DocumentId} {text : String}
    (h : e.noteOpened id text = .ok e') (u : Ticket) (v : Watch)
    (_ : e.activity? u = some (.watch v)) : e.Alert u v e' := by
  obtain ⟨_,e₁,h₁,rfl⟩ := noteOpened_ok.mp h
  exact (alert_openDocument hv h₁ u v).keeps (keeps_emit _ _) rfl

theorem alert_noteChanged {e e' : Engine P} {id : DocumentId} {text : String} {version : Version}
    (h : e.noteChanged id text = .ok (e',version)) (u : Ticket) (v : Watch)
    (_ : e.activity? u = some (.watch v)) : e.Alert u v e' :=
  alert_change (noteChanged_ok.mp h).2 u v

theorem turned_call {e : Engine P} (hv : e.store.Valid) {t : Ticket} {c : Call}
    (hw : e.activity? t = some (.call c)) :
    Turned w e t (e.callTurn t c) := by
  have hr : Turned w e t e := .of_keeps (.refl e) rfl
  cases c with
  | wait id atLeast timeout token =>
    exact turned_watchFrom w hw rfl hr ⟨rfl,rfl⟩ id atLeast timeout token .finding (by simp)
  | openAndWait id text timeout =>
    simp only [callTurn]
    split
    · exact hr.finish ⟨rfl,rfl⟩ _
    · rename_i e₁ h₁
      have hk := keeps_noteOpened h₁
      exact turned_watchFrom w hw rfl (.of_change hk (Store.openDocument_change (noteOpened_store h₁))
        (alert_noteOpened hv h₁)) ⟨hk.ended,hk.tickets⟩ _ _ _ _ _ (by simp)
  | changeAndWait id text timeout =>
    simp only [callTurn]
    split
    · exact hr.finish ⟨rfl,rfl⟩ _
    · rename_i e₁ v h₁
      have hk := keeps_noteChanged h₁
      exact turned_watchFrom w hw rfl (.of_change hk (Store.change_change (noteChanged_store h₁))
        (alert_noteChanged h₁)) ⟨hk.ended,hk.tickets⟩ _ _ _ _ _ (by simp)
  | query id timeout =>
    simp only [callTurn]
    split
    · exact hr.finish ⟨rfl,rfl⟩ _
    · rename_i l hl
      apply turned_watchFrom w hw rfl hr ⟨rfl,rfl⟩
      rintro l' hl' text n ⟨⟩
      rw [Store.get_ok.mp hl] at hl'
      cases hl'
      exact ⟨rfl,rfl⟩

theorem turned_watch {e : Engine P} {t : Ticket} {v : Watch} (hw : e.activity? t = some (.watch v)) :
    Turned w e t (e.watchTurn t v) :=
  turned_outcome w hw rfl (.of_keeps (.refl e) rfl) ⟨rfl,rfl⟩ (.kept hw)

theorem mem_watches {e : Engine P} {u : Ticket} {v : Watch} (h : e.activity? u = some (.watch v)) :
    u ∈ e.watches :=
  List.mem_filterMap.mpr ⟨(u, .watch v), mem_of_activity? h, rfl⟩

theorem Turned.stop {w : Worker P} {e e₁ : Engine P} {t : Ticket} (h : Turned w e t e₁) :
    Turned w e t (e₁.stop.wakeAll e₁.stop.watches) := by
  have hk : ({ e₁ with stopped := true } : Engine P).Keeps (e₁.stop.wakeAll e₁.stop.watches) :=
    (keeps_wakeAll _ _).trans (keeps_wakeAll _ _)
  have hs : (e₁.stop.wakeAll e₁.stop.watches).store = e₁.store :=
    (wakeAll_store _ _).trans (wakeAll_store _ _)
  refine { toOnward := ?_, change := ?_, arises := ?_, others := ?_, alert := ?_, ended := ?_ }
  · have ho : Onward e { e₁ with stopped := true } := { h.toOnward with stopped := fun _ => rfl }
    exact ho.keeps hk
  · exact hs ▸ h.change
  · exact fun u a hu => (h.arises u a (hk.activity? u ▸ hu)).same hk.activity? hs hk.tickets
  · intro u a hut hu
    rw [hk.activity? u]
    exact h.others u a hut hu
  · intro u v hut hu l _
    have hw : e₁.stop.activity? u = some (.watch v) := by
      rw [Engine.stop, (keeps_wakeAll _ _).activity? u]
      rcases h.others u _ hut hu with ho | ⟨ha,_⟩
      · exact ho
      · simp [Activity.isWorker] at ha
    left
    rw [wakeAll_eq]
    exact mem_woken.mpr (Or.inr (mem_watches hw))
  · rw [hk.ended, hk.activity? t]
    exact h.ended

theorem turned_endShutdown {e e₁ : Engine P} {t : Ticket} (h : Turned w e t e₁)
    (he : e₁.ended = e.ended ∧ e₁.tickets = e.tickets) : Turned w e t (e₁.endShutdown t) :=
  (h.keeps (keeps_emit _ _) rfl).finish he .down

theorem shutQueue_store (e : Engine P) : e.shutQueue.store = e.store :=
  wakeAll_store _ _

theorem turned_shutdown {e : Engine P} {t : Ticket} {begun : Bool}
    (hw : e.activity? t = some (.shutdown begun)) : Turned w e t (e.shutdownTurn t begun) := by
  have hr : Turned w e t e := .of_keeps (.refl e) rfl
  cases begun with
  | true => exact turned_endShutdown w hr ⟨rfl,rfl⟩
  | false =>
    simp only [shutdownTurn]
    split
    · exact hr.finish ⟨rfl,rfl⟩ _
    · have hs := hr.stop.keeps (keeps_shutQueue _) (shutQueue_store _)
      have hk := (keeps_wakeAll e.stop e.stop.watches).trans (keeps_shutQueue _)
      have hk' := keeps_wakeAll { e with stopped := true } e.idleLoops
      have he : ((e.stop.wakeAll e.stop.watches).shutQueue).ended = e.ended ∧
          ((e.stop.wakeAll e.stop.watches).shutQueue).tickets = e.tickets :=
        ⟨hk.ended.trans hk'.ended, hk.tickets.trans hk'.tickets⟩
      split
      · exact hs.set he (.closing hw)
      · exact turned_endShutdown w hs he

theorem turned (e : Engine P) (hv : e.store.Valid) (t : Ticket) : Turned w e t (e.turn w t) := by
  unfold turn
  split
  · exact .of_keeps (.refl e) rfl
  · exact turned_take w e t
  · exact turned_process w hv ‹_›
  · exact turned_loop w hv ‹_›
  · exact turned_analysis w ‹_›
  · exact turned_wait w e t _ _
  · exact turned_call w hv ‹_›
  · exact turned_watch w ‹_›
  · exact turned_shutdown w ‹_›

end Engine

end LiveAnalysis
