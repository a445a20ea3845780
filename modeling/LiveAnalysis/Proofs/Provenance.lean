import Mathlib.Data.List.Induction
import LiveAnalysis.Proofs.Moves

namespace LiveAnalysis

variable {P : Type}

def Activity.snapshot? : Activity P → Option Snapshot
  | .loop (.underway s) => some s
  | .loop (.judged s _) => some s
  | .process _ (.underway s) => some s
  | .process _ (.judged s _) => some s
  | .analysis _ s _ => some s
  | _ => none

theorem Activity.snapshot?_of_fresh {a : Activity P} (h : a.isFresh = true) : a.snapshot? = none := by
  cases a with
  | process id stage => cases stage <;> simp_all [isFresh, snapshot?]
  | loop stage => cases stage <;> simp_all [isFresh, snapshot?]
  | analysis owner s c => simp [isFresh] at h
  | _ => rfl

theorem Activity.snapshot?_of_verdict {a : Activity P} {s : Snapshot} {verdict : Verdict P}
    (h : a.verdict? = some (s,verdict)) : a.snapshot? = some s := by
  cases a with
  | process id stage => cases stage <;> simp_all [verdict?, snapshot?]
  | loop stage => cases stage <;> simp_all [verdict?, snapshot?]
  | _ => simp [verdict?] at h

namespace Engine

def Had (e : Engine P) (generation : Nat) (version : Version) (text : String) : Prop :=
  ∃ l ∈ e.store.lifetimes, l.generation = generation ∧ l.version = version ∧ l.text = text

def HadIn (w : Worker P) (e : Engine P) (moves : List Move) (generation : Nat) (version : Version)
    (text : String) : Prop :=
  ∃ x ∈ e.states w moves, x.Had generation version text

def consulted? (e : Engine P) (m : Move) : Option (Nat × Snapshot) :=
  match (e.turning? m).bind e.activity? with
  | some (.analysis _ s none) => some (e.calls + 1, s)
  | _ => none

def consulted (w : Worker P) (e : Engine P) (moves : List Move) : List (Nat × Snapshot) :=
  e.record w consulted? moves

structure Computed (w : Worker P) (had : Nat → Version → String → Prop)
    (asked : Nat × Snapshot → Prop) (generation : Nat) (f : Finding P) (call : Nat) (s : Snapshot) :
    Prop where
  same_generation : s.generation = generation
  same_version : s.version = f.version
  same_id : s.id = f.id
  had_text : had generation f.version s.text
  called : asked (call,s)
  found : w.analyzer call s.text s.version = .found f.payload

structure Sourced (w : Worker P) (had : Nat → Version → String → Prop)
    (asked : Nat × Snapshot → Prop) (e : Engine P) : Prop where
  texts : ∀ l ∈ e.store.lifetimes, had l.generation l.version l.text
  taken : ∀ u a s, e.activity? u = some a → a.snapshot? = some s →
    had s.generation s.version s.text ∧
      ∃ l, e.store.ofGeneration? s.generation = some l ∧ l.id = s.id ∧ s.version ≤ l.version
  numbered : ∀ u owner s call, e.activity? u = some (.analysis owner s (some call)) → asked (call,s)
  judged : ∀ u s verdict, e.Concludes u s verdict →
    ∃ call, asked (call,s) ∧ verdict = w.analyzer call s.text s.version
  findings : ∀ l ∈ e.store.lifetimes, ∀ f, l.slot.latest = some f → f.id = l.id ∧
    f.version ≤ l.version ∧ ∃ call s, Computed w had asked l.generation f call s

variable {w : Worker P} {had had' : Nat → Version → String → Prop}
  {asked asked' : Nat × Snapshot → Prop}

theorem Computed.mono {g : Nat} {f : Finding P} {call : Nat} {s : Snapshot}
    (h : Computed w had asked g f call s) (hh : ∀ g v t, had g v t → had' g v t)
    (ha : ∀ c, asked c → asked' c) : Computed w had' asked' g f call s :=
  { h with had_text := hh _ _ _ h.had_text, called := ha _ h.called }

theorem Sourced.answered {e : Engine P} {m : Move} (hs : Sourced w had asked e)
    (ha : ∀ c, asked c → asked' c) (hc : ∀ c, e.consulted? m = some c → asked' c)
    {t owner : Ticket} {s : Snapshot} {c : Option Nat} (ht : e.turning? m = some t)
    (hu : e.activity? t = some (.analysis owner s c)) : asked' (c.getD (e.calls + 1),s) := by
  cases c with
  | some call => exact ha _ (hs.numbered t owner s call hu)
  | none =>
    apply hc
    simp [consulted?, ht, hu]

section Step

variable {e e' : Engine P} {m : Move} (h : Moved w e m e') (ho : e.Orderly)
  (hs : Sourced w had asked e) (hh : ∀ g v t, had g v t → had' g v t)
  (hn : ∀ g v t, e'.Had g v t → had' g v t) (ha : ∀ c, asked c → asked' c)
  (hc : ∀ c, e.consulted? m = some c → asked' c)

include h ho

theorem taken_of_find {l : Lifetime P} {id : DocumentId} (hl : e'.store.find? id = some l)
    (hn : ∀ g v t, e'.Had g v t → had' g v t) :
    had' l.snapshot.generation l.snapshot.version l.snapshot.text ∧
      ∃ k, e'.store.ofGeneration? l.snapshot.generation = some k ∧ k.id = l.snapshot.id ∧
        l.snapshot.version ≤ k.version := by
  have hm := (Store.find?_spec hl).1
  have hv := h.change.valid ho.valid
  exact ⟨hn _ _ _ ⟨l,hm,rfl,rfl,rfl⟩, l, hv.ofGeneration?_eq hm, rfl, Version.le_refl _⟩

include hs hh hn

theorem taken_step (u : Ticket) (a : Activity P) (s : Snapshot) (hu : e'.activity? u = some a)
    (hsnap : a.snapshot? = some s) :
    had' s.generation s.version s.text ∧
      ∃ l, e'.store.ofGeneration? s.generation = some l ∧ l.id = s.id ∧ s.version ≤ l.version := by
  have hold : ∀ x b, e.activity? x = some b → b.snapshot? = some s →
      had' s.generation s.version s.text ∧
        ∃ l, e'.store.ofGeneration? s.generation = some l ∧ l.id = s.id ∧ s.version ≤ l.version := by
    intro x b hx hb
    obtain ⟨ht,l,hl,hid,hle⟩ := hs.taken x b s hx hb
    obtain ⟨l',hl',he⟩ := (h.change.step ho.valid).toGrows.ofGeneration? (h.change.valid ho.valid) hl
    exact ⟨hh _ _ _ ht, l', hl', he.id.trans hid, Version.le_trans hle he.version⟩
  cases h.comes u a hu with
  | stays hu => exact hold u a hu hsnap
  | starts hf _ _ => simp [Activity.snapshot?_of_fresh hf] at hsnap
  | arises ht ha =>
    cases ha with
    | kept hu => exact hold u a hu hsnap
    | parked => simp [Activity.snapshot?] at hsnap
    | taken _ hl =>
      cases hsnap
      exact taken_of_find h ho hl hn
    | opened _ hl =>
      cases hsnap
      exact taken_of_find h ho hl hn
    | begun _ _ _ hl =>
      cases hsnap
      exact taken_of_find h ho hl hn
    | asked hx => exact hold _ _ hx hsnap
    | judgedLoop hx =>
      cases hsnap
      exact hold _ _ hx rfl
    | judgedProcess hx =>
      cases hsnap
      exact hold _ _ hx rfl
    | watching => simp [Activity.snapshot?] at hsnap
    | closing => simp [Activity.snapshot?] at hsnap

omit ho hh hn
include ha hc

theorem numbered_step (u owner : Ticket) (s : Snapshot) (call : Nat)
    (hu : e'.activity? u = some (.analysis owner s (some call))) : asked' (call,s) := by
  cases h.comes u _ hu with
  | stays hu => exact ha _ (hs.numbered u owner s call hu)
  | starts hf _ _ => simp [Activity.isFresh] at hf
  | arises ht har =>
    cases har with
    | kept hu => exact ha _ (hs.numbered u owner s call hu)
    | asked hx =>
      apply hc
      simp [consulted?, ht, hx]

theorem judged_step (u : Ticket) (s : Snapshot) (verdict : Verdict P)
    (hu : e'.Concludes u s verdict) :
    ∃ call, asked' (call,s) ∧ verdict = w.analyzer call s.text s.version := by
  obtain ⟨a,hu,hv⟩ := hu
  have hold : ∀ x, e.activity? x = some a →
      ∃ call, asked' (call,s) ∧ verdict = w.analyzer call s.text s.version := by
    intro x hx
    obtain ⟨call,hcall,he⟩ := hs.judged x s verdict ⟨a,hx,hv⟩
    exact ⟨call,ha _ hcall,he⟩
  cases h.comes u a hu with
  | stays hu => exact hold u hu
  | starts hf _ _ =>
    have := Activity.snapshot?_of_fresh hf
    simp [Activity.snapshot?_of_verdict hv] at this
  | arises ht har =>
    cases har with
    | kept hu => exact hold u hu
    | judgedLoop hx =>
      cases hv
      exact ⟨_,hs.answered ha hc ht hx,rfl⟩
    | judgedProcess hx =>
      cases hv
      exact ⟨_,hs.answered ha hc ht hx,rfl⟩
    | _ => simp [Activity.verdict?] at hv

omit hc
include ho hh

theorem findings_step (l' : Lifetime P) (hl' : l' ∈ e'.store.lifetimes) (f : Finding P)
    (hf : l'.slot.latest = some f) : f.id = l'.id ∧ f.version ≤ l'.version ∧
      ∃ call s, Computed w had' asked' l'.generation f call s := by
  obtain ⟨l,hl,he,hcase⟩ := h.change.latest ho.valid hl' hf
  rw [he.id, he.generation]
  rcases hcase with hf | ⟨s,payload,⟨t,_,hj⟩,hid,hg,rfl⟩
  · obtain ⟨hfid,hle,call,s,hcomp⟩ := hs.findings l hl f hf
    exact ⟨hfid, Version.le_trans hle he.version, call, s, hcomp.mono hh ha⟩
  · obtain ⟨call,hcall,hver⟩ := hs.judged t s _ hj
    obtain ⟨a,hu,hv⟩ := hj
    obtain ⟨hhad,k,hk,_,hle⟩ := hs.taken t a s hu (Activity.snapshot?_of_verdict hv)
    have hkl : k = l := by
      rw [← hg, ho.valid.ofGeneration?_eq hl] at hk
      exact (Option.some.inj hk).symm
    refine ⟨hid.symm, Version.le_trans (hkl ▸ hle) he.version, call, s, hg.symm, rfl, rfl, ?_,
      ha _ hcall, hver.symm⟩
    exact hg ▸ hh _ _ _ hhad

end Step

theorem Sourced.step {e e' : Engine P} {m : Move} (hs : Sourced w had asked e) (ho : e.Orderly)
    (h : Moved w e m e') (hh : ∀ g v t, had g v t → had' g v t)
    (hn : ∀ g v t, e'.Had g v t → had' g v t) (ha : ∀ c, asked c → asked' c)
    (hc : ∀ c, e.consulted? m = some c → asked' c) : Sourced w had' asked' e' where
  texts l hl := hn _ _ _ ⟨l,hl,rfl,rfl,rfl⟩
  taken := taken_step h ho hs hh hn
  numbered := numbered_step h hs ha hc
  judged := judged_step h hs ha hc
  findings := findings_step h ho hs hh ha

structure Blank (e : Engine P) : Prop where
  orderly : e.Orderly
  lifetimes : e.store.lifetimes = []
  fresh : ∀ u a, e.activity? u = some a → a.isFresh = true

theorem blank_new (gate : Option Gate) : ({ gate } : Engine P).Blank :=
  ⟨orderly_new gate, rfl, by simp [activity?]⟩

theorem Blank.sourced {e : Engine P} (h : e.Blank) : Sourced w had asked e where
  texts l hl := by simp [h.lifetimes] at hl
  taken u a s hu hs := by simp [Activity.snapshot?_of_fresh (h.fresh u a hu)] at hs
  numbered u owner s call hu := by
    have := h.fresh u _ hu
    simp [Activity.isFresh] at this
  judged u s verdict := by
    rintro ⟨a,hu,hv⟩
    have := Activity.snapshot?_of_fresh (h.fresh u a hu)
    simp [Activity.snapshot?_of_verdict hv] at this
  findings l hl := by simp [h.lifetimes] at hl

theorem had_concat {e : Engine P} {moves : List Move} {m : Move} {g : Nat} {v : Version}
    {text : String} : e.HadIn w (moves ++ [m]) g v text ↔
      e.HadIn w moves g v text ∨ (e.after w (moves ++ [m])).Had g v text := by
  simp only [HadIn, states_concat, List.mem_append, List.mem_singleton, or_and_right, exists_or,
    exists_eq_left]

theorem consulted_concat {e : Engine P} {moves : List Move} {m : Move} :
    e.consulted w (moves ++ [m]) = e.consulted w moves ++ ((e.after w moves).consulted? m).toList :=
  record_concat w consulted? e moves m

theorem Blank.sourced_after {e : Engine P} (h : e.Blank) (moves : List Move) :
    Sourced w (e.HadIn w moves) (· ∈ e.consulted w moves) (e.after w moves) := by
  induction moves using List.reverseRecOn with
  | nil => exact h.sourced
  | append_singleton moves m ih =>
    rw [after_concat]
    refine ih.step (h.orderly.after w moves) (moved w (h.orderly.after w moves) m) ?_ ?_ ?_ ?_
    · exact fun g v t ht => had_concat.mpr (Or.inl ht)
    · exact fun g v t ht => had_concat.mpr (Or.inr (after_concat w e moves m ▸ ht))
    · intro c hc
      rw [consulted_concat]
      exact List.mem_append_left _ hc
    · intro c hc
      rw [consulted_concat]
      exact List.mem_append_right _ (Option.mem_toList.mpr hc)

theorem had_unique {e : Engine P} (ho : e.Orderly) {moves : List Move} {g : Nat} {v : Version}
    {text text' : String} (h : e.HadIn w moves g v text) (h' : e.HadIn w moves g v text') :
    text = text' := by
  have hle : ∀ before more : List Move, ∀ t t', (e.after w before).Had g v t →
      (e.after w (before ++ more)).Had g v t' → t' = t := by
    rintro before more t t' ⟨l,hl,rfl,rfl,rfl⟩ ⟨l',hl',hg,hv,rfl⟩
    have hb := ho.after w before
    have hm := hb.after w more
    obtain ⟨k,hk,he⟩ := (hb.later w more).store.kept l hl
    rw [← after_append] at hk hm
    rw [hm.valid.eq_of_generation hl' hk (hg.trans he.generation.symm)] at hv ⊢
    exact he.text hv
  obtain ⟨x,hx,ht⟩ := h
  obtain ⟨x',hx',ht'⟩ := h'
  obtain ⟨before,after,hmoves,rfl⟩ := (mem_states w).mp hx
  obtain ⟨before',after',hmoves',rfl⟩ := (mem_states w).mp hx'
  rcases List.append_eq_append_iff.mp (hmoves.symm.trans hmoves') with ⟨more,rfl,_⟩ | ⟨more,rfl,_⟩
  · exact (hle before more _ _ ht ht').symm
  · exact hle before' more _ _ ht' ht

theorem fresh_generation {e : Engine P} (ho : e.Orderly) (m : Move) {l : Lifetime P}
    (hl : l ∈ (e.move w m).store.lifetimes)
    (hn : ∀ k ∈ e.store.lifetimes, k.generation ≠ l.generation) :
    l.version = .baseline ∧ l.slot.latest = none := by
  rcases ((moved w ho m).change.step ho.valid).came l hl with ⟨k,hk,he⟩ | ⟨_,hv,hs⟩
  · exact absurd he.generation.symm (hn k hk)
  · exact ⟨hv, by rw [hs]⟩

theorem openDocument_fresh {e e' : Engine P} (hv : e.store.Valid) {id : DocumentId} {text : String}
    (h : e.openDocument id text = .ok e') : ∃ l, e'.store.find? id = some l ∧ l.text = text ∧
      l.version = .baseline ∧ l.slot.latest = none ∧
      ∀ k ∈ e.store.lifetimes, k.generation ≠ l.generation := by
  obtain ⟨store,hs,rfl⟩ := openDocument_ok.mp h
  obtain ⟨_,rfl⟩ := Store.openDocument_ok.mp hs
  refine ⟨{ id, generation := e.store.lifetimes.length + 1, text }, ?_, rfl, rfl, rfl, ?_⟩
  · rw [enqueue_store]
    simp [Store.find?, Lifetime.isOpen]
  · intro k hk
    have := (hv.bounded k hk).2
    simp only
    omega

theorem findings_computed_from_their_text (w : Worker P) (gate : Option Gate) (moves : List Move) :
    let start : Engine P := { gate }
    let e := start.after w moves
    (∀ l ∈ e.store.openLifetimes, ∀ f, l.slot.latest = some f → f.version ≤ l.version ∧
      ∃ call s, (call,s) ∈ start.consulted w moves ∧ s.id = l.id ∧ s.generation = l.generation ∧
        s.version = f.version ∧ w.analyzer call s.text f.version = .found f.payload ∧
        ∀ text, start.HadIn w moves l.generation f.version text ↔ text = s.text) ∧
    (∀ before more, moves = before ++ more → ∀ l ∈ (start.after w before).store.lifetimes,
      ∃ l' ∈ e.store.lifetimes, l'.id = l.id ∧ l'.generation = l.generation ∧
        ∀ f, l.slot.latest = some f → ∃ f', l'.slot.latest = some f' ∧ f.version ≤ f'.version) ∧
    (∀ m, ∀ l ∈ (e.move w m).store.lifetimes,
      (∀ k ∈ e.store.lifetimes, k.generation ≠ l.generation) →
        l.version = .baseline ∧ l.slot.latest = none) ∧
    (∀ id text e', e.openDocument id text = .ok e' → ∃ l, e'.store.find? id = some l ∧
      l.text = text ∧ l.version = .baseline ∧ l.slot.latest = none ∧
      ∀ k ∈ e.store.lifetimes, k.generation ≠ l.generation) := by
  intro start e
  have hb : start.Blank := blank_new gate
  have ho : e.Orderly := hb.orderly.after w moves
  refine ⟨?_, ?_, fun m l => fresh_generation ho m, fun id text e' => openDocument_fresh ho.valid⟩
  · intro l hl f hf
    obtain ⟨hm,_⟩ := Store.mem_openLifetimes.mp hl
    obtain ⟨hid,hle,call,s,hc⟩ := (hb.sourced_after (w := w) moves).findings l hm f hf
    refine ⟨hle, call, s, hc.called, hc.same_id.trans hid, hc.same_generation, hc.same_version, ?_, ?_⟩
    · rw [← hc.same_version]
      exact hc.found
    · intro text
      constructor
      · exact fun h => had_unique hb.orderly h hc.had_text
      · rintro rfl
        exact hc.had_text
  · rintro before more rfl l hl
    obtain ⟨l',hl',he⟩ := ((hb.orderly.after w before).later w more).store.kept l hl
    refine ⟨l', ?_, he.id, he.generation, he.latest⟩
    change l' ∈ (start.after w (before ++ more)).store.lifetimes
    rw [after_append]
    exact hl'

end Engine

namespace Service

variable (analyzer : Analyzer P) (config : Config) (gate : Option Gate)

def Had (moves : List Move) : Nat → Version → String → Prop :=
  (reached analyzer config gate []).HadIn ⟨analyzer, config.updates⟩ (moves.map Move.engine)

def consulted (moves : List Move) : List (Nat × Snapshot) :=
  (reached analyzer config gate []).consulted ⟨analyzer, config.updates⟩ (moves.map Move.engine)

theorem activity?_reached_nil (u : Ticket) : (reached analyzer config gate []).activity? u =
    if u = 0 then some (.loop .idle) else none :=
  Engine.activity?_start { gate } (.loop .idle) u

theorem blank_start : (reached analyzer config gate []).Blank where
  orderly := orderly_start analyzer config gate
  lifetimes := rfl
  fresh u a hu := by
    rw [activity?_reached_nil] at hu
    split at hu
    · cases hu
      rfl
    · simp at hu

theorem sourced_reached (moves : List Move) : Engine.Sourced ⟨analyzer, config.updates⟩
    (Had analyzer config gate moves) (· ∈ consulted analyzer config gate moves)
    (reached analyzer config gate moves) := by
  rw [reached_eq analyzer config gate moves]
  exact (blank_start analyzer config gate).sourced_after _

theorem had_concat {moves : List Move} {m : Move} {g : Nat} {v : Version} {text : String} :
    Had analyzer config gate (moves ++ [m]) g v text ↔
      Had analyzer config gate moves g v text ∨
        (reached analyzer config gate (moves ++ [m])).Had g v text := by
  rw [reached_eq analyzer config gate (moves ++ [m])]
  simp only [Had, List.map_append, List.map_singleton]
  exact Engine.had_concat

end Service

end LiveAnalysis
