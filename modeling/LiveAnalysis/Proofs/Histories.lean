import LiveAnalysis.Proofs.Settling

namespace LiveAnalysis

variable {P : Type}

inductive Operation (P : Type) where
  | openDocument (id : DocumentId) (text : String)
  | change (id : DocumentId) (text : String)
  | close (id : DocumentId)
  | get (id : DocumentId)
  | version (id : DocumentId)
  | contains (id : DocumentId)
  | ids
  | snapshot (id : DocumentId)
  | subscribe (id : DocumentId)
  | publish (s : Snapshot) (payload : P)
  deriving DecidableEq, Repr

inductive Response where
  | done
  | version (v : Version)
  | text (text : String) (v : Version)
  | contained (b : Bool)
  | ids (ids : List DocumentId)
  | snapshot (s : Snapshot)
  | publication (p : Publication)
  | refused (why : Refusal)
  deriving DecidableEq, Repr

def Operation.edits (id : DocumentId) : Operation P → Bool
  | .openDocument id' _ => id' = id
  | .change id' _ => id' = id
  | .close id' => id' = id
  | _ => false

def Operation.concerns (id : DocumentId) : Operation P → Bool
  | .openDocument id' _ => id' = id
  | .change id' _ => id' = id
  | .close id' => id' = id
  | .get id' => id' = id
  | .version id' => id' = id
  | .contains id' => id' = id
  | .subscribe id' => id' = id
  | _ => false

namespace Engine

def look (e : Engine P) (id : DocumentId) (answer : Lifetime P → Response) : Response :=
  match e.store.get id with
  | .ok l => answer l
  | .error why => .refused why

def perform (e : Engine P) : Operation P → Engine P × Response
  | .openDocument id text =>
    match e.openDocument id text with
    | .ok e => (e, .version .baseline)
    | .error why => (e, .refused why)
  | .change id text =>
    match e.change id text with
    | .ok (e, version) => (e, .version version)
    | .error why => (e, .refused why)
  | .close id =>
    match e.close id with
    | .ok e => (e, .done)
    | .error why => (e, .refused why)
  | .get id => (e, e.look id fun l => .text l.text l.version)
  | .version id => (e, e.look id fun l => .version l.version)
  | .contains id => (e, .contained (e.store.contains id))
  | .ids => (e, .ids e.store.ids)
  | .snapshot id => (e, e.look id fun l => .snapshot l.snapshot)
  | .subscribe id =>
    match e.subscribe id with
    | .ok (e, _, version) => (e, .version version)
    | .error why => (e, .refused why)
  | .publish s payload =>
    let (e, outcome) := e.publish s payload
    (e, .publication outcome)

def performAll (e : Engine P) (ops : List (Operation P)) : Engine P :=
  ops.foldl (fun e op => (e.perform op).1) e

def begun? (e : Engine P) : Operation P → Option Nat
  | .openDocument id text =>
    match (e.perform (.openDocument id text)).2 with
    | .version _ => ((e.perform (.openDocument id text)).1.store.find? id).map (·.generation)
    | _ => none
  | _ => none

def begun (e : Engine P) : List (Operation P) → List Nat
  | [] => []
  | op :: ops => (e.begun? op).toList ++ (e.perform op).1.begun ops

end Engine

/-!
The reference: for each document that is open, the text that it was opened with and those that it was given
since. It answers what is asked about texts and versions, and takes no notice of the rest.
-/

structure History where
  first : String
  changes : List String := []
  deriving DecidableEq, Repr

namespace History

def text (h : History) : String :=
  h.changes.getLastD h.first

def version (h : History) : Version :=
  ⟨h.changes.length⟩

def changed (h : History) (text : String) : History :=
  { h with changes := h.changes ++ [text] }

def next (id : DocumentId) : Option History → Operation P → Option History
  | none, .openDocument id' text => if id' = id then some { first := text } else none
  | some h, .change id' text => if id' = id then some (h.changed text) else some h
  | some h, .close id' => if id' = id then none else some h
  | h, _ => h

end History

structure Histories where
  entries : List (DocumentId × History) := []
  deriving DecidableEq, Repr

namespace Histories

def find? (h : Histories) (id : DocumentId) : Option History :=
  (h.entries.find? (·.1 = id)).map (·.2)

def look (h : Histories) (id : DocumentId) (answer : History → Response) : Response :=
  match h.find? id with
  | some k => answer k
  | none => .refused (.notOpen id)

def ids (h : Histories) : List DocumentId :=
  (h.entries.map (·.1)).mergeSort fun a b => a.text ≤ b.text

def perform (h : Histories) : Operation P → Histories × Option Response
  | .openDocument id text =>
    match h.find? id with
    | some _ => (h, some (.refused (.alreadyOpen id)))
    | none => (⟨h.entries ++ [(id, { first := text })]⟩, some (.version .baseline))
  | .change id text =>
    (⟨h.entries.map fun p => if p.1 = id then (id, p.2.changed text) else p⟩,
      some (h.look id fun k => .version (k.changed text).version))
  | .close id => (⟨h.entries.filter (·.1 ≠ id)⟩, some (h.look id fun _ => .done))
  | .get id => (h, some (h.look id fun k => .text k.text k.version))
  | .version id => (h, some (h.look id fun k => .version k.version))
  | .contains id => (h, some (.contained (h.find? id).isSome))
  | .ids => (h, some (.ids h.ids))
  | .subscribe id => (h, some (h.look id fun k => .version k.version))
  | .snapshot _ => (h, none)
  | .publish _ _ => (h, none)

def performAll (h : Histories) (ops : List (Operation P)) : Histories :=
  ops.foldl (fun h op => (h.perform op).1) h

theorem mem_keys {h : Histories} {id : DocumentId} :
    id ∈ h.entries.map (·.1) ↔ (h.find? id).isSome = true := by
  simp [find?, List.find?_isSome]

theorem next_of_other {id : DocumentId} {op : Operation P} (hop : op.edits id = false)
    (k : Option History) : History.next id k op = k := by
  cases op <;> cases k <;> simp_all [History.next, Operation.edits]

theorem find?_perform (h : Histories) (op : Operation P) (id : DocumentId) :
    (h.perform op).1.find? id = History.next id (h.find? id) op := by
  cases op with
  | openDocument id' text =>
    simp only [perform]
    by_cases hid : id' = id
    · subst hid
      cases hf : h.find? id' with
      | some k => simp [hf, History.next]
      | none =>
        have hnone : h.entries.find? (·.1 = id') = none := by simpa [find?] using hf
        simp [find?, History.next, List.find?_append, hnone]
    · have hkept : (⟨h.entries ++ [(id', { first := text })]⟩ : Histories).find? id = h.find? id := by
        simp [find?, List.find?_append, hid]
      have hnext : History.next id (h.find? id) (.openDocument id' text : Operation P) = h.find? id := by
        cases h.find? id <;> simp [History.next, hid]
      rw [hnext]
      split
      · rfl
      · exact hkept
  | change id' text =>
    have hp : ((fun p : DocumentId × History => decide (p.1 = id)) ∘
        fun p => if p.1 = id' then (id', p.2.changed text) else p) = fun p => decide (p.1 = id) := by
      funext p
      by_cases hp : p.1 = id' <;> simp [hp]
    simp only [perform, find?, List.find?_map, hp]
    cases hf : h.entries.find? fun p => decide (p.1 = id) with
    | none => rfl
    | some p =>
      have hid : p.1 = id := by simpa using List.find?_some hf
      by_cases hx : id' = id
      · simp [History.next, hx, hid]
      · have hne : p.1 ≠ id' := fun hp => hx (hp.symm.trans hid)
        simp [History.next, hx, hne]
  | close id' =>
    simp only [perform, find?, List.find?_filter]
    by_cases hx : id' = id
    · subst hx
      have hnone : h.entries.find? (fun p => decide (decide (p.1 ≠ id') = true ∧
          decide (p.1 = id') = true)) = none := by
        simp
      rw [hnone]
      cases (h.entries.find? fun p => decide (p.1 = id')) <;> simp [History.next]
    · have hp : (fun p : DocumentId × History =>
          decide (decide (p.1 ≠ id') = true ∧ decide (p.1 = id) = true)) = fun p => decide (p.1 = id) := by
        funext p
        by_cases hp : p.1 = id
        · simp [hp, Ne.symm hx]
        · simp [hp]
      rw [hp]
      cases (h.entries.find? fun p => decide (p.1 = id)) <;> simp [History.next, hx]
  | _ => exact (next_of_other rfl _).symm

theorem find?_performAll (h : Histories) (ops : List (Operation P)) (id : DocumentId) :
    (h.performAll ops).find? id = (ops.filter (·.edits id)).foldl (History.next id) (h.find? id) := by
  induction ops generalizing h with
  | nil => rfl
  | cons op ops ih =>
    have hstep := (ih (h.perform op).1).trans (by rw [find?_perform])
    cases hop : op.edits id with
    | true => rwa [List.filter_cons_of_pos hop]
    | false =>
      rw [next_of_other hop] at hstep
      rwa [List.filter_cons_of_neg (by simp [hop])]

theorem response_of_own {h h' : Histories} {id : DocumentId} {op : Operation P}
    (hop : op.concerns id = true) (hf : h.find? id = h'.find? id) :
    (h.perform op).2 = (h'.perform op).2 := by
  cases op with
  | openDocument id' text =>
    obtain rfl : id' = id := by simpa [Operation.concerns] using hop
    simp only [perform, hf]
    split <;> rfl
  | ids => simp [Operation.concerns] at hop
  | snapshot id' => rfl
  | publish s payload => rfl
  | _ =>
    obtain rfl : _ = id := by simpa [Operation.concerns] using hop
    simp only [perform, look, hf]

theorem answers {op : Operation P} {id : DocumentId} (hop : op.concerns id = true) (h : Histories) :
    ∃ r, (h.perform op).2 = some r := by
  cases op with
  | openDocument id' text =>
    simp only [perform]
    split <;> exact ⟨_,rfl⟩
  | snapshot id' => simp [Operation.concerns] at hop
  | publish s payload => simp [Operation.concerns] at hop
  | _ => exact ⟨_,rfl⟩

end Histories

@[simp] theorem History.text_changed (h : History) (text : String) : (h.changed text).text = text := by
  simp [History.text, History.changed]

@[simp] theorem History.version_changed (h : History) (text : String) :
    (h.changed text).version = h.version.next := by
  simp [History.version, History.changed, Version.next]

structure Store.Records (s : Store P) (h : Histories) : Prop where
  valid : s.Valid
  distinct : (h.entries.map (·.1)).Nodup
  found : ∀ id, (s.find? id).map (fun l => (l.text,l.version)) = (h.find? id).map fun k => (k.text,k.version)

theorem Histories.distinct_perform {h : Histories} (hd : (h.entries.map (·.1)).Nodup)
    (op : Operation P) : ((h.perform op).1.entries.map (·.1)).Nodup := by
  cases op with
  | openDocument id text =>
    simp only [Histories.perform]
    split
    · exact hd
    · rename_i hn
      rw [List.map_append, List.nodup_append]
      refine ⟨hd, List.nodup_singleton _, ?_⟩
      rintro x hx y hy rfl
      have hkey := Histories.mem_keys.mp hx
      rw [List.mem_singleton.mp hy, hn] at hkey
      simp at hkey
  | change id text =>
    have hkeys : (h.entries.map fun p => if p.1 = id then (id, p.2.changed text) else p).map (·.1) =
        h.entries.map (·.1) := by
      rw [List.map_map]
      refine List.map_congr_left fun p _ => ?_
      by_cases hp : p.1 = id <;> simp [hp]
    simp only [Histories.perform, hkeys]
    exact hd
  | close id => exact hd.sublist (List.filter_sublist.map _)
  | _ => exact hd

namespace Store.Records

variable {s : Store P} {h : Histories}

theorem new : (({} : Store P)).Records {} :=
  ⟨valid_empty, List.nodup_nil, fun _ => rfl⟩

theorem known (hr : s.Records h) {id : DocumentId} {l : Lifetime P} (hl : s.find? id = some l) :
    ∃ k, h.find? id = some k ∧ k.text = l.text ∧ k.version = l.version := by
  have hf := hr.found id
  rw [hl, Option.map_some] at hf
  obtain ⟨k,hk,he⟩ := Option.map_eq_some_iff.mp hf.symm
  exact ⟨k, hk, Prod.mk.inj he⟩

theorem unknown (hr : s.Records h) {id : DocumentId} (hn : s.find? id = none) : h.find? id = none := by
  have hf := hr.found id
  rw [hn, Option.map_none] at hf
  exact Option.map_eq_none_iff.mp hf.symm

theorem isSome (hr : s.Records h) (id : DocumentId) : (s.find? id).isSome = (h.find? id).isSome := by
  have hf := congrArg Option.isSome (hr.found id)
  simpa only [Option.isSome_map] using hf

theorem mem_openIds (hr : s.Records h) {id : DocumentId} :
    id ∈ s.openLifetimes.map (·.id) ↔ id ∈ h.entries.map (·.1) := by
  rw [Histories.mem_keys, ← hr.isSome, Option.isSome_iff_exists, List.mem_map]
  constructor
  · rintro ⟨l,hl,rfl⟩
    obtain ⟨hm,ho⟩ := mem_openLifetimes.mp hl
    exact ⟨l, hr.valid.find?_eq hm ho⟩
  · rintro ⟨l,hl⟩
    obtain ⟨hm,hid,ho⟩ := find?_spec hl
    exact ⟨l, mem_openLifetimes.mpr ⟨hm,ho⟩, hid⟩

theorem openIds_nodup (hv : s.Valid) : (s.openLifetimes.map (·.id)).Nodup := by
  have hd : s.lifetimes.Nodup := hv.descending.imp fun hab hne => by
    rw [hne] at hab
    exact Nat.lt_irrefl _ hab
  refine (hd.filter _).map_on fun a ha b hb hid => ?_
  obtain ⟨ham,hao⟩ := mem_openLifetimes.mp ha
  obtain ⟨hbm,hbo⟩ := mem_openLifetimes.mp hb
  exact hv.single a ham b hbm hao hbo hid

-- Texts tell documents apart, so there is but one way to put the same documents in order.
theorem ids_eq (hr : s.Records h) : s.ids = h.ids := by
  have hperm : (s.openLifetimes.map (·.id)).Perm (h.entries.map (·.1)) :=
    (List.perm_ext_iff_of_nodup (openIds_nodup hr.valid) hr.distinct).mpr fun _ => hr.mem_openIds
  have hsorted : ∀ xs : List DocumentId,
      (xs.mergeSort fun a b => a.text ≤ b.text).Pairwise fun a b => a.text ≤ b.text := by
    intro xs
    let le : DocumentId → DocumentId → Bool := fun a b => a.text ≤ b.text
    have htrans : ∀ a b c, le a b → le b c → le a c := by
      intro a b c hab hbc
      simp only [le, decide_eq_true_eq] at *
      exact String.le_trans hab hbc
    have htotal : ∀ a b, le a b || le b a := fun a b => by
      simpa [le] using String.le_total a.text b.text
    simpa [le] using List.pairwise_mergeSort htrans htotal xs
  refine List.Perm.eq_of_pairwise ?_ (hsorted _) (hsorted _) ?_
  · intro a b _ _ hab hba
    cases a; cases b
    exact congrArg DocumentId.mk (String.le_antisymm hab hba)
  · exact (List.mergeSort_perm _ _).trans (hperm.trans (List.mergeSort_perm _ _).symm)

end Store.Records

namespace Engine

variable (e : Engine P) (id : DocumentId)

theorem perform_open (text : String) :
    (∃ l, e.store.find? id = some l ∧
      e.perform (.openDocument id text) = (e, .refused (.alreadyOpen id))) ∨
    e.store.find? id = none ∧ (e.perform (.openDocument id text)).2 = .version .baseline ∧
      (e.perform (.openDocument id text)).1.store =
        ⟨{ id, generation := e.store.lifetimes.length + 1, text } :: e.store.lifetimes⟩ := by
  simp only [perform, Engine.openDocument, Store.openDocument]
  cases e.store.find? id with
  | some l => exact Or.inl ⟨l,rfl,rfl⟩
  | none => exact Or.inr ⟨rfl, rfl, enqueue_store _ id⟩

theorem perform_change (text : String) :
    (e.store.find? id = none ∧ e.perform (.change id text) = (e, .refused (.notOpen id))) ∨
    ∃ l, e.store.find? id = some l ∧ (e.perform (.change id text)).2 = .version l.version.next ∧
      (e.perform (.change id text)).1.store =
        e.store.update l.generation fun x => { x with text, version := l.version.next } := by
  simp only [perform, Engine.change, Store.change, Store.get]
  cases e.store.find? id with
  | none => exact Or.inl ⟨rfl,rfl⟩
  | some l => exact Or.inr ⟨l, rfl, rfl, enqueue_store _ id⟩

theorem perform_close :
    (e.store.find? id = none ∧ e.perform (.close id) = (e, .refused (.notOpen id))) ∨
    ∃ l, e.store.find? id = some l ∧ (e.perform (.close id)).2 = .done ∧
      (e.perform (.close id)).1.store =
        e.store.update l.generation fun x => { x with slot := x.slot.close } := by
  simp only [perform, Engine.close, Store.close, Store.get]
  cases e.store.find? id with
  | none => exact Or.inl ⟨rfl,rfl⟩
  | some l => exact Or.inr ⟨l, rfl, rfl, wakeAll_store _ _⟩

theorem perform_subscribe :
    (e.perform (.subscribe id)).1.store = e.store ∧
      (e.perform (.subscribe id)).2 = e.look id fun l => .version l.version := by
  simp only [perform, Engine.subscribe, look, Store.get]
  cases e.store.find? id <;> exact ⟨rfl,rfl⟩

end Engine

namespace Store.Records

variable {e : Engine P} {h : Histories}

theorem look_eq (hr : e.store.Records h) {answer : Lifetime P → Response} {answer' : History → Response}
    (ha : ∀ l k, k.text = l.text → k.version = l.version → answer l = answer' k) (id : DocumentId) :
    e.look id answer = h.look id answer' := by
  simp only [Engine.look, Store.get, Histories.look]
  cases hl : e.store.find? id with
  | none => simp only [hr.unknown hl]
  | some l =>
    obtain ⟨k,hk,ht,hv⟩ := hr.known hl
    simp only [hk, ha l k ht hv]

theorem response_eq (hr : e.store.Records h) {op : Operation P} {r : Response}
    (hop : (h.perform op).2 = some r) : (e.perform op).2 = r := by
  refine Option.some.inj (Eq.trans ?_ hop)
  cases op with
  | openDocument id text =>
    simp only [Histories.perform]
    rcases e.perform_open id text with ⟨l,hl,hp⟩ | ⟨hl,hp,_⟩
    · obtain ⟨k,hk,_⟩ := hr.known hl
      rw [hp, hk]
    · rw [hp, hr.unknown hl]
  | change id text =>
    simp only [Histories.perform, Histories.look]
    rcases e.perform_change id text with ⟨hl,hp⟩ | ⟨l,hl,hp,_⟩
    · rw [hp, hr.unknown hl]
    · obtain ⟨k,hk,_,hv⟩ := hr.known hl
      simp only [hp, hk, History.version_changed, hv]
  | close id =>
    simp only [Histories.perform, Histories.look]
    rcases e.perform_close id with ⟨hl,hp⟩ | ⟨l,hl,hp,_⟩
    · rw [hp, hr.unknown hl]
    · obtain ⟨k,hk,_⟩ := hr.known hl
      rw [hp, hk]
  | get id => exact congrArg some (hr.look_eq (fun l k ht hv => by rw [ht, hv]) id)
  | version id => exact congrArg some (hr.look_eq (fun l k _ hv => by rw [hv]) id)
  | contains id => exact congrArg (fun b => some (Response.contained b)) (hr.isSome id)
  | ids => exact congrArg (fun ids => some (Response.ids ids)) hr.ids_eq
  | subscribe id =>
    rw [(e.perform_subscribe id).2]
    exact congrArg some (hr.look_eq (fun l k _ hv => by rw [hv]) id)
  | snapshot id => simp [Histories.perform] at hop
  | publish s payload => simp [Histories.perform] at hop

theorem openDocument (hr : e.store.Records h) (id : DocumentId) (text : String) :
    (e.perform (.openDocument id text)).1.store.Records
      (h.perform (.openDocument id text : Operation P)).1 := by
  refine ⟨?_, Histories.distinct_perform hr.distinct _, fun id' => ?_⟩
  · rcases e.perform_open id text with ⟨l,_,hp⟩ | ⟨hl,_,hs⟩
    · rw [hp]
      exact hr.valid
    · rw [hs]
      exact (Change.opened (p := fun _ _ => True) id text hl).valid hr.valid
  · rw [Histories.find?_perform]
    rcases e.perform_open id text with ⟨l,hl,hp⟩ | ⟨hl,_,hs⟩
    · rw [hp, hr.found id']
      cases hk : h.find? id' with
      | some k => rfl
      | none =>
        have hne : id ≠ id' := by
          rintro rfl
          obtain ⟨k,hk',_⟩ := hr.known hl
          simp [hk] at hk'
        simp [History.next, hne]
    · rw [hs, find?_opened _ _ _ rfl]
      by_cases hid : id' = id
      · rw [if_pos hid, hid, hr.unknown hl]
        simp [History.next, History.text, History.version, Version.baseline]
      · rw [if_neg hid, Histories.next_of_other (by simp [Operation.edits, Ne.symm hid]), hr.found id']

theorem change (hr : e.store.Records h) (id : DocumentId) (text : String) :
    (e.perform (.change id text)).1.store.Records (h.perform (.change id text : Operation P)).1 := by
  refine ⟨?_, Histories.distinct_perform hr.distinct _, fun id' => ?_⟩
  · rcases e.perform_change id text with ⟨_,hp⟩ | ⟨l,hl,_,hs⟩
    · rw [hp]
      exact hr.valid
    · rw [hs]
      exact (Change.changed (p := fun _ _ => True) l text ((find?_spec hl).2.1 ▸ hl)).valid hr.valid
  · rw [Histories.find?_perform]
    by_cases hid : id' = id
    · subst hid
      rcases e.perform_change id' text with ⟨hl,hp⟩ | ⟨l,hl,_,hs⟩
      · rw [hp, hl, hr.unknown hl]
        rfl
      · obtain ⟨k,hk,_,hv⟩ := hr.known hl
        rw [hs, hr.valid.find?_changed hl, if_pos rfl, hk]
        simp [History.next, hv]
    · rw [Histories.next_of_other (by simp [Operation.edits, Ne.symm hid]), ← hr.found id']
      rcases e.perform_change id text with ⟨_,hp⟩ | ⟨l,hl,_,hs⟩
      · rw [hp]
      · rw [hs, hr.valid.find?_changed hl, if_neg hid]

theorem close (hr : e.store.Records h) (id : DocumentId) :
    (e.perform (.close id)).1.store.Records (h.perform (.close id : Operation P)).1 := by
  refine ⟨?_, Histories.distinct_perform hr.distinct _, fun id' => ?_⟩
  · rcases e.perform_close id with ⟨_,hp⟩ | ⟨l,hl,_,hs⟩
    · rw [hp]
      exact hr.valid
    · rw [hs]
      exact (Change.closed (p := fun _ _ => True) l ((find?_spec hl).2.1 ▸ hl)).valid hr.valid
  · rw [Histories.find?_perform]
    by_cases hid : id' = id
    · subst hid
      rcases e.perform_close id' with ⟨hl,hp⟩ | ⟨l,hl,_,hs⟩
      · rw [hp, hl, hr.unknown hl]
        rfl
      · obtain ⟨k,hk,_⟩ := hr.known hl
        rw [hs, hr.valid.find?_closed hl, if_pos rfl, hk]
        simp [History.next]
    · rw [Histories.next_of_other (by simp [Operation.edits, Ne.symm hid]), ← hr.found id']
      rcases e.perform_close id with ⟨_,hp⟩ | ⟨l,hl,_,hs⟩
      · rw [hp]
      · rw [hs, hr.valid.find?_closed hl, if_neg hid]

-- A finding has its place beside the text and the version of a document, which it leaves as they are.
theorem publish (hr : e.store.Records h) (s : Snapshot) (payload : P) :
    (e.perform (.publish s payload)).1.store.Records h := by
  have hs : (e.perform (.publish s payload)).1.store = (e.store.publish s payload).1 :=
    Engine.publish_store e s payload
  refine ⟨hs ▸ hr.valid.published s payload, hr.distinct, fun id => ?_⟩
  rw [← hr.found id, hs]
  rcases hr.valid.publish_cases s payload with ⟨hp,_⟩ | ⟨l,hl,hg,hv,hp⟩
  · rw [hp]
  · have he := l.evolves_store ⟨s.id, s.version, payload⟩ (find?_spec hl).2.2 hv
    have ho : Lifetime.isOpen { l with slot := { l.slot with latest := some ⟨s.id, s.version, payload⟩ } } =
      true := (find?_spec hl).2.2
    rw [hp, hr.valid.find?_updated hl
      (f := fun x => { x with slot := { l.slot with latest := some ⟨s.id, s.version, payload⟩ } })
      (fun _ => rfl) he, ho]
    by_cases hid : id = s.id
    · simp [hid, hl]
    · simp [hid]

theorem perform (hr : e.store.Records h) (op : Operation P) :
    (e.perform op).1.store.Records (h.perform op).1 := by
  cases op with
  | openDocument id text => exact hr.openDocument id text
  | change id text => exact hr.change id text
  | close id => exact hr.close id
  | subscribe id => exact (e.perform_subscribe id).1 ▸ hr
  | publish s payload => exact hr.publish s payload
  | _ => exact hr

theorem performAll (hr : e.store.Records h) (ops : List (Operation P)) :
    (e.performAll ops).store.Records (h.performAll ops) := by
  induction ops generalizing e h with
  | nil => exact hr
  | cons op ops ih => exact ih (hr.perform op)

end Store.Records

def Store.generations (s : Store P) : List Nat :=
  (s.lifetimes.map (·.generation)).reverse

namespace Store

theorem generations_update (s : Store P) (g : Nat) {f : Lifetime P → Lifetime P}
    (hf : ∀ x, (f x).generation = x.generation) : (s.update g f).generations = s.generations := by
  simp only [generations, update, List.map_map]
  refine congrArg List.reverse (List.map_congr_left fun x _ => ?_)
  rw [Function.comp_apply]
  split
  · exact hf x
  · rfl

theorem generations_publish (s : Store P) (snap : Snapshot) (payload : P) :
    (s.publish snap payload).1.generations = s.generations := by
  unfold publish
  split
  · rfl
  · split
    · exact s.generations_update _ fun _ => rfl
    · rfl

theorem Valid.generations_increase {s : Store P} (h : s.Valid) : s.generations.Pairwise (· < ·) := by
  rw [generations, List.pairwise_reverse, List.pairwise_map]
  exact h.descending

end Store

namespace Engine

theorem generations_perform (e : Engine P) (op : Operation P) :
    (e.perform op).1.store.generations = e.store.generations ++ (e.begun? op).toList := by
  have hnone : ∀ s : Store P, s.generations = s.generations ++ (none : Option Nat).toList := fun s =>
    (List.append_nil _).symm
  cases op with
  | openDocument id text =>
    rcases e.perform_open id text with ⟨l,_,hp⟩ | ⟨_,hp,hs⟩
    · rw [begun?, hp]
      exact hnone _
    · have hfind := Store.find?_opened e.store id { id, generation := e.store.lifetimes.length + 1, text } rfl
      rw [if_pos rfl] at hfind
      rw [begun?, hp, hs]
      simp [hfind, Store.generations]
  | change id text =>
    refine Eq.trans ?_ (hnone _)
    rcases e.perform_change id text with ⟨_,hp⟩ | ⟨l,_,_,hs⟩
    · rw [hp]
    · rw [hs]
      exact e.store.generations_update _ fun _ => rfl
  | close id =>
    refine Eq.trans ?_ (hnone _)
    rcases e.perform_close id with ⟨_,hp⟩ | ⟨l,_,_,hs⟩
    · rw [hp]
    · rw [hs]
      exact e.store.generations_update _ fun _ => rfl
  | publish s payload =>
    refine Eq.trans ?_ (hnone _)
    rw [show (e.perform (.publish s payload)).1.store = _ from publish_store e s payload]
    exact e.store.generations_publish s payload
  | subscribe id => rw [(e.perform_subscribe id).1]; exact hnone _
  | _ => exact hnone _

theorem generations_performAll (e : Engine P) (ops : List (Operation P)) :
    (e.performAll ops).store.generations = e.store.generations ++ e.begun ops := by
  induction ops generalizing e with
  | nil => exact (List.append_nil _).symm
  | cons op ops ih =>
    calc ((e.perform op).1.performAll ops).store.generations
        = (e.perform op).1.store.generations ++ (e.perform op).1.begun ops := ih _
      _ = e.store.generations ++ ((e.begun? op).toList ++ (e.perform op).1.begun ops) := by
        rw [generations_perform, List.append_assoc]

theorem store_refines_histories {e : Engine P} (he : e.store = {}) :
    (∀ (ops : List (Operation P)) (op : Operation P) (r : Response),
      ((Histories.performAll {} ops).perform op).2 = some r →
        ((e.performAll ops).perform op).2 = r) ∧
    (∀ (e' : Engine P) (ops ops' : List (Operation P)) (op : Operation P) (id : DocumentId),
      e'.store = {} → op.concerns id = true → ops.filter (·.edits id) = ops'.filter (·.edits id) →
        ((e.performAll ops).perform op).2 = ((e'.performAll ops').perform op).2) ∧
    ∀ ops : List (Operation P), (e.performAll ops).store.generations = e.begun ops ∧
      (e.begun ops).Pairwise (· < ·) := by
  have hrec : ∀ (e : Engine P) (ops : List (Operation P)), e.store = {} →
      (e.performAll ops).store.Records (Histories.performAll {} ops) := by
    intro e ops he
    exact Store.Records.performAll (he ▸ Store.Records.new) ops
  refine ⟨fun ops op r hr => (hrec e ops he).response_eq hr, ?_, ?_⟩
  · intro e' ops ops' op id he' hop hsame
    have hfind : (Histories.performAll {} ops).find? id = (Histories.performAll {} ops').find? id := by
      rw [Histories.find?_performAll, Histories.find?_performAll, hsame]
    obtain ⟨r,hr⟩ := Histories.answers hop (Histories.performAll {} ops)
    have hr' := (Histories.response_of_own hop hfind).symm.trans hr
    rw [(hrec e ops he).response_eq hr, (hrec e' ops' he').response_eq hr']
  · intro ops
    have hb : (e.performAll ops).store.generations = e.begun ops := by
      rw [generations_performAll, he]
      rfl
    exact ⟨hb, hb ▸ (hrec e ops he).valid.generations_increase⟩

theorem store_refines_histories_reopened :
    let a : DocumentId := ⟨"file:///a"⟩
    let b : DocumentId := ⟨"file:///b"⟩
    let ops : List (Operation Unit) := [.openDocument b "p", .openDocument a "x", .change a "y",
      .publish ⟨a,"x",⟨0⟩,2⟩ (), .close b, .change b "q", .close a, .openDocument a "z", .change a "w"]
    ({} : Engine Unit).store = {} ∧
    (({} : Engine Unit).performAll ops).perform (.get a) =
      (({} : Engine Unit).performAll ops, .text "w" ⟨1⟩) ∧
    ((({} : Engine Unit).performAll ops).perform (.version a)).2 =
      ((({} : Engine Unit).performAll (ops.filter (·.edits a))).perform (.version a)).2 ∧
    (({} : Engine Unit).performAll ops).store.generations = [1,2,3] := by
  intro a b ops
  obtain ⟨hanswer,hown,hbegun⟩ := store_refines_histories (e := ({} : Engine Unit)) rfl
  refine ⟨rfl, ?_, hown {} ops _ (.version a) a rfl (by decide) (by decide), ?_⟩
  · exact Prod.ext rfl (hanswer ops (.get a) _ (by decide))
  · exact (hbegun ops).1.trans (by decide)

end Engine

end LiveAnalysis
