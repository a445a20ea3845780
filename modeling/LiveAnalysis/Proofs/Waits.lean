import Mathlib.Data.List.Induction
import Mathlib.Data.List.Nodup
import LiveAnalysis.Proofs.Moves

namespace LiveAnalysis

variable {P : Type}

structure Terms where
  id : DocumentId
  generation : Nat
  atLeast : Version
  timeout : Nat
  token : Option Token
  since : Nat
  deriving DecidableEq, Repr

namespace Terms

def deadline (k : Terms) : Nat :=
  min (k.since + min k.timeout Engine.longestWait) Engine.lastMoment

def watch (k : Terms) : Watch where
  id := k.id
  generation := k.generation
  atLeast := k.atLeast
  timeout := k.timeout
  deadline := k.deadline
  token := k.token
  goal := .finding

end Terms

def Ending.of : Except Refusal (Finding P) → Ending P
  | .ok f => .found f
  | .error why => .refused why

namespace Engine

def terms? (e : Engine P) (c : Call) : Option Terms :=
  if e.stopped then none
  else
    match c with
    | .wait id atLeast timeout token => (e.store.find? id).map fun l =>
      ⟨id, l.generation, atLeast.getD l.version, timeout, token, e.clock⟩
    | .openAndWait id _ timeout =>
      match e.store.find? id with
      | some _ => none
      | none => some { id, generation := e.store.lifetimes.length + 1, atLeast := .baseline, timeout,
                       token := none, since := e.clock }
    | .changeAndWait id _ timeout => (e.store.find? id).map fun l =>
      { id, generation := l.generation, atLeast := l.version.next, timeout, token := none,
        since := e.clock }
    | .query _ _ => none

structure Lacks (l : Lifetime P) (k : Terms) : Prop where
  isOpen : l.isOpen = true
  older : ∀ f, l.slot.latest = some f → f.version < k.atLeast

def Cancelled (e : Engine P) (k : Terms) : Prop :=
  ∃ token, k.token = some token ∧ token ∈ e.cancelled

structure Pending (e : Engine P) (k : Terms) : Prop where
  lifetime : ∃ l, e.store.ofGeneration? k.generation = some l ∧ Lacks l k
  granted : ¬ e.Cancelled k
  running : e.stopped = false
  early : e.clock < k.deadline

/-! The first of these that applies is the outcome. -/

inductive Resolves (e : Engine P) (k : Terms) (l : Lifetime P) : Ending P → Prop where
  | found {f} (hf : l.slot.latest = some f) (hv : k.atLeast ≤ f.version) : Resolves e k l (.found f)
  | closed (hc : l.isOpen = false) (hn : ∀ f, l.slot.latest = some f → f.version < k.atLeast) :
    Resolves e k l (.refused (.documentClosed k.id))
  | cancelled (hl : Lacks l k) (hc : e.Cancelled k) : Resolves e k l (.refused (.cancelled k.id))
  | shutDown (hl : Lacks l k) (hc : ¬ e.Cancelled k) (hs : e.stopped = true) :
    Resolves e k l (.refused .shutDown)
  | timedOut (hl : Lacks l k) (hc : ¬ e.Cancelled k) (hs : e.stopped = false)
    (hd : k.deadline ≤ e.clock) : Resolves e k l (.refused (.timedOut k.id k.atLeast k.timeout))

theorem isCancelled_watch {e : Engine P} {k : Terms} :
    e.isCancelled k.watch = true ↔ e.Cancelled k := by
  simp [isCancelled, Cancelled, Terms.watch, Option.any_eq_true]

theorem answer?_eq_none {l : Lifetime P} {k : Terms} :
    l.slot.answer? k.id k.atLeast = none ↔ Lacks l k := by
  constructor
  · intro h
    rcases l.slot.answer?_cases k.id k.atLeast with ⟨f,_,_,ha⟩ | ⟨_,_,ha⟩ | ⟨hc,hv,_⟩
    · simp [h] at ha
    · simp [h] at ha
    · exact ⟨by simp [Lifetime.isOpen, hc], hv⟩
  · intro h
    exact Slot.answer?_open (by simpa [Lifetime.isOpen] using h.isOpen) k.id h.older

theorem answer?_resolves (e : Engine P) {l : Lifetime P} {k : Terms} {r : Except Refusal (Finding P)}
    (h : l.slot.answer? k.id k.atLeast = some r) : Resolves e k l (.of r) := by
  rcases l.slot.answer?_cases k.id k.atLeast with ⟨f,hf,hv,ha⟩ | ⟨hc,hv,ha⟩ | ⟨_,_,ha⟩
  · cases h.symm.trans ha
    exact .found hf hv
  · cases h.symm.trans ha
    exact .closed (by simp [Lifetime.isOpen, hc]) hv
  · simp [h] at ha

theorem outcome?_watch {e : Engine P} {k : Terms} {l : Lifetime P}
    (hl : e.store.ofGeneration? k.generation = some l) :
    e.outcome? k.watch = match l.slot.answer? k.id k.atLeast with
      | some r => some r
      | none =>
        if e.isCancelled k.watch then some (.error (.cancelled k.id))
        else if e.stopped then some (.error .shutDown)
        else if k.deadline ≤ e.alarmed then some (.error (.timedOut k.id k.atLeast k.timeout))
        else none := by
  simp only [outcome?, slot, Terms.watch, hl]
  rfl

theorem outcome?_resolves {e : Engine P} {k : Terms} {l : Lifetime P} {r : Except Refusal (Finding P)}
    (ho : e.Orderly) (hl : e.store.ofGeneration? k.generation = some l)
    (h : e.outcome? k.watch = some r) : Resolves e k l (.of r) := by
  rw [outcome?_watch hl] at h
  split at h
  · rename_i ha
    cases h
    exact answer?_resolves e ha
  · rename_i ha
    have hlacks := answer?_eq_none.mp ha
    split at h
    · rename_i hc
      cases h
      exact .cancelled hlacks (isCancelled_watch.mp hc)
    · rename_i hc
      have hc' : ¬ e.Cancelled k := fun h => hc (isCancelled_watch.mpr h)
      split at h
      · rename_i hs
        cases h
        exact .shutDown hlacks hc' hs
      · rename_i hs
        split at h
        · rename_i hd
          cases h
          exact .timedOut hlacks hc' (by simpa using hs) (Nat.le_trans hd ho.alarmed)
        · simp at h

theorem outcome?_pending {e : Engine P} {k : Terms} {l : Lifetime P} (ho : e.Orderly)
    (hs : e.clock ≤ e.alarmed) (hl : e.store.ofGeneration? k.generation = some l) :
    e.outcome? k.watch = none ↔ e.Pending k := by
  have hc : e.alarmed = e.clock := Nat.le_antisymm ho.alarmed hs
  rw [outcome?_watch hl, hc]
  constructor
  · intro h
    split at h
    · simp at h
    · rename_i ha
      have hcan : ¬ e.isCancelled k.watch = true := by
        intro hx
        simp [hx] at h
      have hst : ¬ e.stopped = true := by
        intro hx
        simp [hcan, hx] at h
      have hd : ¬ k.deadline ≤ e.clock := by
        intro hx
        simp [hcan, hst, hx] at h
      exact ⟨⟨l,hl,answer?_eq_none.mp ha⟩, fun hx => hcan (isCancelled_watch.mpr hx),
        by simpa using hst, Nat.lt_of_not_le hd⟩
  · rintro ⟨⟨l',hl',hlacks⟩,hg,hr,hd⟩
    rw [hl] at hl'
    cases hl'
    have hcan : ¬ e.isCancelled k.watch = true := fun hx => hg (isCancelled_watch.mp hx)
    simp [answer?_eq_none.mpr hlacks, hcan, hr, Nat.not_le_of_lt hd]

theorem Resolves.not_pending {e e' : Engine P} {k : Terms} {l : Lifetime P} {x : Ending P}
    (h : e.Resolves k l x) (hl : e.store.ofGeneration? k.generation = some l) (hlater : e.Later e')
    (hv : e'.store.Valid) : ¬ e'.Pending k := by
  rintro ⟨⟨l',hl',hlacks⟩,hg,hr,hd⟩
  obtain ⟨l'',hl'',he⟩ := hlater.store.ofGeneration? hv hl
  rw [hl'] at hl''
  cases hl''
  cases h with
  | found hf hle =>
    obtain ⟨f',hf',hle'⟩ := he.latest _ hf
    exact Version.not_le_of_lt (hlacks.older f' hf') (Version.le_trans hle hle')
  | closed hc =>
    have := he.isOpen hlacks.isOpen
    simp [hc] at this
  | cancelled _ hc =>
    obtain ⟨token,ht,hin⟩ := hc
    exact hg ⟨token,ht,hlater.cancelled token hin⟩
  | shutDown _ _ hs =>
    have := hlater.stopped hs
    simp [hr] at this
  | timedOut _ _ _ hdl =>
    have := hlater.clock
    omega

def Attentive (e : Engine P) : Prop :=
  ∀ u v, e.activity? u = some (.watch v) → u ∉ e.ready → e.outcome? v = none

def Awaits (t : Ticket) (e : Engine P) : Prop :=
  ∀ v, e.activity? t = some (.watch v) → e.outcome? v = none

theorem awaits_finish (e : Engine P) (t : Ticket) (x : Ending P) : Awaits t (e.finish t x) := by
  intro v h
  simp [activity?_finish] at h

theorem awaits_set {e : Engine P} {t : Ticket} {v : Watch} (h : e.outcome? v = none) :
    Awaits t (e.set t (.watch v)) := by
  intro v' hv
  rw [activity?_set, if_pos rfl] at hv
  obtain ⟨_,_,hv⟩ := Option.map_eq_some_iff.mp hv
  cases hv
  exact h

theorem awaits_watchTurn (e : Engine P) (t : Ticket) (v : Watch) : Awaits t (e.watchTurn t v) := by
  rcases e.watchTurn_cases t v with ⟨x,h⟩ | ⟨v',h,ho,_⟩ <;> rw [h]
  · exact awaits_finish e t x
  · exact awaits_set ho

theorem awaits_watchFrom (e : Engine P) (t : Ticket) (id : DocumentId) (atLeast : Option Version)
    (timeout : Nat) (token : Option Token) (goal : Goal) :
    Awaits t (e.watchFrom t id atLeast timeout token goal) := by
  rcases e.watchFrom_cases t id atLeast timeout token goal with ⟨x,h⟩ | ⟨v,h,ho,_⟩ <;> rw [h]
  · exact awaits_finish e t x
  · exact awaits_set ho

theorem awaits_callTurn (e : Engine P) (t : Ticket) (c : Call) : Awaits t (e.callTurn t c) := by
  rcases e.callTurn_cases t c with ⟨x,h⟩ | ⟨e₁,_,_,_,_,_,_,h,_⟩ <;> rw [h]
  · exact awaits_finish e t x
  · exact awaits_watchFrom e₁ t _ _ _ _ _

theorem awaits_shutdownTurn (e : Engine P) (t : Ticket) (begun : Bool) :
    Awaits t (e.shutdownTurn t begun) := by
  cases begun with
  | true => exact awaits_finish _ _ _
  | false =>
    simp only [shutdownTurn]
    split
    · exact awaits_finish _ _ _
    · split
      · intro v hv
        rw [activity?_set, if_pos rfl] at hv
        obtain ⟨_,_,hv⟩ := Option.map_eq_some_iff.mp hv
        simp at hv
      · exact awaits_finish _ _ _

theorem awaits_turn (w : Worker P) {e : Engine P} (hv : e.store.Valid) (t : Ticket) :
    Awaits t (e.turn w t) := by
  have hidle : ∀ a, e.activity? t = some a → a.isCaller = false → Awaits t (e.turn w t) := by
    intro a ha hc v hw
    cases (turned w e hv t).arises t _ hw with
    | kept hk =>
      rw [ha] at hk
      cases hk
      simp [Activity.isCaller] at hc
    | watching hk hcaller =>
      rw [ha] at hk
      cases hk
      simp [hc] at hcaller
  cases ha : e.activity? t with
  | none =>
    rw [turn_of_none w ha]
    intro v hv
    simp [ha] at hv
  | some a =>
    cases a with
    | call c => simpa only [turn, ha] using e.awaits_callTurn t c
    | watch v => simpa only [turn, ha] using e.awaits_watchTurn t v
    | shutdown begun => simpa only [turn, ha] using e.awaits_shutdownTurn t begun
    | _ => exact hidle _ ha rfl

theorem move_turning (w : Worker P) {e : Engine P} {m : Move} {t : Ticket}
    (h : e.turning? m = some t) : ∃ ready, e.move w m = ({ e with ready } : Engine P).turn w t := by
  cases m with
  | turn place =>
    have ht : e.ready[place]? = some t := h
    exact ⟨e.ready.eraseIdx place, by simp only [move, ht]⟩
  | _ => simp [turning?] at h

theorem Attentive.move {w : Worker P} {e : Engine P} (h : e.Attentive) (ho : e.Orderly) {m : Move}
    (hm : m ≠ .stop) : (e.move w m).Attentive := by
  intro u v hu hr
  have hmoved := moved w ho m
  by_cases ht : e.turning? m = some u
  · obtain ⟨ready,he⟩ := move_turning w ht
    rw [he] at hu ⊢
    exact awaits_turn w (e := { e with ready }) ho.valid u v hu
  have hold : e.activity? u = some (.watch v) → (e.move w m).outcome? v = none := by
    intro hu
    obtain ⟨l,hl,_⟩ := ho.watched u v hu
    rcases hmoved.alert hm u v l hu hl with hx | hx | hx
    · exact absurd hx ht
    · exact absurd hx hr
    · rw [hx]
      apply h u v hu
      intro hin
      rcases hmoved.ready u hin with hx | hx
      · exact hr hx
      · exact ht hx
  cases hmoved.comes u _ hu with
  | stays hu => exact hold hu
  | starts hf => simp [Activity.isFresh] at hf
  | arises hx har =>
    cases har with
    | kept hu => exact hold hu
    | watching => exact absurd hx ht

theorem watchTurn_watch (e : Engine P) (t : Ticket) (k : Terms) :
    e.watchTurn t k.watch = match e.outcome? k.watch with
      | none => e.set t (.watch k.watch)
      | some r => e.finish t (.of r) := by
  unfold watchTurn
  split <;> simp_all [Terms.watch, Ending.of]

inductive Stands (e : Engine P) (t : Ticket) (k : Terms) : Prop where
  | waiting (hu : e.activity? t = some (.watch k.watch)) (hn : ∀ x, (t,x) ∉ e.ended)
  | resolved {l x} (hu : e.activity? t = none) (hx : (t,x) ∈ e.ended)
    (hl : e.store.ofGeneration? k.generation = some l) (hr : e.Resolves k l x)

theorem stands_watchTurn {e : Engine P} {t : Ticket} {k : Terms} {l : Lifetime P} {a : Activity P}
    (hu : e.activity? t = some a) (hn : ∀ x, (t,x) ∉ e.ended)
    (hl : e.store.ofGeneration? k.generation = some l) (ho : (e.watchTurn t k.watch).Orderly) :
    (e.watchTurn t k.watch).Stands t k := by
  rw [watchTurn_watch] at ho ⊢
  cases hx : e.outcome? k.watch with
  | none =>
    refine .waiting ?_ hn
    rw [activity?_set, if_pos rfl, hu]
    rfl
  | some r =>
    rw [hx] at ho
    refine .resolved (x := .of r) ?_ ?_ hl (outcome?_resolves ho hl hx)
    · simp [activity?_finish]
    · exact List.mem_append_right _ (List.mem_singleton.mpr rfl)

theorem watchFrom_watch {e : Engine P} {k : Terms} {l : Lifetime P} {atLeast : Option Version}
    (t : Ticket) (hs : e.stopped = false) (hl : e.store.find? k.id = some l)
    (hg : k.generation = l.generation) (hv : k.atLeast = atLeast.getD l.version)
    (hc : k.since = e.clock) :
    e.watchFrom t k.id atLeast k.timeout k.token .finding = e.watchTurn t k.watch := by
  have hn : e.newWatch k.id atLeast k.timeout k.token .finding = .ok k.watch := by
    refine newWatch_ok.mpr ⟨hs,l,hl,?_⟩
    simp [Terms.watch, Terms.deadline, alarmIn, hg, hv, hc]
  unfold watchFrom
  rw [hn]

theorem noteOpened_accepts {e : Engine P} {id : DocumentId} (text : String) (hs : e.stopped = false)
    (hf : e.store.find? id = none) : ∃ e₁, e.noteOpened id text = .ok e₁ := by
  simp [noteOpened, ensureRunning, openDocument, Store.openDocument, hs, hf, bind, Except.bind, pure,
    Except.pure]

theorem noteOpened_refuses {e : Engine P} {id : DocumentId} {l : Lifetime P} (text : String) (hs : e.stopped = false)
    (hf : e.store.find? id = some l) : e.noteOpened id text = .error (.alreadyOpen id) := by
  simp [noteOpened, ensureRunning, openDocument, Store.openDocument, hs, hf, bind, Except.bind]

theorem noteChanged_accepts {e : Engine P} {id : DocumentId} {l : Lifetime P} (text : String)
    (hs : e.stopped = false) (hf : e.store.find? id = some l) :
    ∃ e₁, e.noteChanged id text = .ok (e₁,l.version.next) := by
  simp [noteChanged, ensureRunning, change, Store.change, Store.get, hs, hf, bind, Except.bind, pure,
    Except.pure]

theorem callTurn_terms {e : Engine P} (hv : e.store.Valid) (t : Ticket) {c : Call} {k : Terms}
    (hk : e.terms? c = some k) : ∃ e₁, e.Keeps e₁ ∧ e.callTurn t c = e₁.watchTurn t k.watch ∧
      ∃ l, e₁.store.ofGeneration? k.generation = some l := by
  unfold terms? at hk
  split at hk
  · simp at hk
  rename_i hs
  have hs : e.stopped = false := by simpa using hs
  cases c with
  | wait id atLeast timeout token =>
    obtain ⟨l,hl,rfl⟩ := Option.map_eq_some_iff.mp hk
    refine ⟨e, .refl e, ?_, l, hv.ofGeneration?_eq (Store.find?_spec hl).1⟩
    exact watchFrom_watch (k := ⟨id,l.generation,atLeast.getD l.version,timeout,token,e.clock⟩) t hs hl
      rfl rfl rfl
  | openAndWait id text timeout =>
    dsimp only at hk
    split at hk
    · simp at hk
    · rename_i hf
      cases hk
      obtain ⟨e₁,hnote⟩ := noteOpened_accepts text hs hf
      have hkeeps := keeps_noteOpened hnote
      obtain ⟨_,hstore⟩ := Store.openDocument_ok.mp (noteOpened_store hnote)
      have hfind : e₁.store.find? id =
          some { id, generation := e.store.lifetimes.length + 1, text } := by
        rw [hstore]
        simp [Store.find?, Lifetime.isOpen]
      have hgen : e₁.store.ofGeneration? (e.store.lifetimes.length + 1) =
          some { id, generation := e.store.lifetimes.length + 1, text } := by
        rw [hstore]
        simp [Store.ofGeneration?]
      refine ⟨e₁, hkeeps, ?_, _, hgen⟩
      simp only [callTurn, hnote]
      exact watchFrom_watch (k := ⟨id,e.store.lifetimes.length + 1,.baseline,timeout,none,e.clock⟩) t
        (hkeeps.stopped.trans hs) hfind rfl rfl hkeeps.clock.symm
  | changeAndWait id text timeout =>
    obtain ⟨l,hl,rfl⟩ := Option.map_eq_some_iff.mp hk
    obtain ⟨hm,hid,hopen⟩ := Store.find?_spec hl
    obtain ⟨e₁,hnote⟩ := noteChanged_accepts text hs hl
    have hkeeps := keeps_noteChanged hnote
    have hstore := noteChanged_store hnote
    have hv₁ : e₁.store.Valid :=
      (Store.change_change (p := fun _ _ => False) hstore).valid hv
    obtain ⟨l',hl',_,hupdate⟩ := Store.change_ok.mp hstore
    rw [hl] at hl'
    cases hl'
    have hmem : ∃ l' ∈ e₁.store.lifetimes, l'.id = id ∧ l'.isOpen = true ∧
        l'.generation = l.generation := by
      rw [hupdate]
      exact ⟨_,(hv.mem_update hm).mpr (Or.inl rfl),hid,hopen,rfl⟩
    obtain ⟨l',hm',hid',hopen',hg⟩ := hmem
    have hfind := hv₁.find?_eq hm' hopen'
    rw [hid'] at hfind
    refine ⟨e₁, hkeeps, ?_, l', hg ▸ hv₁.ofGeneration?_eq hm'⟩
    simp only [callTurn, hnote]
    exact watchFrom_watch (k := ⟨id,l.generation,l.version.next,timeout,none,e.clock⟩) t
      (hkeeps.stopped.trans hs) hfind hg.symm rfl hkeeps.clock.symm
  | query id timeout => simp at hk

theorem stands_call (w : Worker P) {e : Engine P} (ho : e.Orderly) {m : Move} {t : Ticket} {c : Call}
    {k : Terms} (ht : e.turning? m = some t) (hu : e.activity? t = some (.call c))
    (hk : e.terms? c = some k) : (e.move w m).Stands t k := by
  have ho' := ho.move w m
  obtain ⟨ready,he⟩ := move_turning w ht
  have hn : ∀ x, (t,x) ∉ e.ended := by
    intro x hx
    rw [(ho.ended t x hx).2] at hu
    simp at hu
  have hcall : ({ e with ready } : Engine P).turn w t = ({ e with ready } : Engine P).callTurn t c := by
    have hu' : ({ e with ready } : Engine P).activity? t = some (.call c) := hu
    simp only [turn, hu']
  obtain ⟨e₁,hkeeps,hturn,l,hl⟩ := callTurn_terms (e := { e with ready }) ho.valid t hk
  rw [he, hcall, hturn] at ho' ⊢
  refine stands_watchTurn (hkeeps.activity? t ▸ hu) ?_ hl ho'
  rw [hkeeps.ended]
  exact hn

theorem Moved.ended_of_other {w : Worker P} {e e' : Engine P} {m : Move} (h : Moved w e m e')
    {t : Ticket} (ht : e.turning? m ≠ some t) (x : Ending P) : (t,x) ∈ e'.ended ↔ (t,x) ∈ e.ended := by
  rcases h.ended with he | ⟨t',a,y,ht',_,he,_⟩
  · rw [he]
  · rw [he, List.mem_append, List.mem_singleton]
    constructor
    · rintro (hx | hx)
      · exact hx
      · cases hx
        exact absurd ht' ht
    · exact Or.inl

theorem stands_waiting (w : Worker P) {e : Engine P} (ho : e.Orderly) (m : Move) {t : Ticket}
    {k : Terms} (hu : e.activity? t = some (.watch k.watch)) (hn : ∀ x, (t,x) ∉ e.ended) :
    (e.move w m).Stands t k := by
  have ho' := ho.move w m
  by_cases ht : e.turning? m = some t
  · obtain ⟨ready,he⟩ := move_turning w ht
    have hu' : ({ e with ready } : Engine P).activity? t = some (.watch k.watch) := hu
    have hturn : ({ e with ready } : Engine P).turn w t =
        ({ e with ready } : Engine P).watchTurn t k.watch := by simp only [turn, hu']
    obtain ⟨l,hl,_⟩ := ho.watched t k.watch hu
    rw [he, hturn] at ho' ⊢
    exact stands_watchTurn (e := { e with ready }) hu' hn hl ho'
  · have hm := moved w ho m
    exact .waiting (hm.still_waits hu rfl ht) fun x hx => hn x ((hm.ended_of_other ht x).mp hx)

end Engine

namespace Service

open Engine

variable (analyzer : Analyzer P) (config : Config) (gate : Option Gate)

theorem Move.engine_ne_stop (m : Move) : m.engine ≠ .stop := by
  cases m <;> simp [Move.engine]

theorem attentive_reached (moves : List Move) : (reached analyzer config gate moves).Attentive := by
  induction moves using List.reverseRecOn with
  | nil =>
    intro u v hu
    have hm := mem_of_activity? hu
    simp [reached, after, Service.start, Engine.start, emit] at hm
  | append_singleton moves m ih =>
    rw [reached_concat]
    exact ih.move (orderly_reached analyzer config gate moves) m.engine_ne_stop

structure EndsIn (moves : List Move) (t : Ticket) (k : Terms) (x : Ending P) (earlier : List Move)
    (m : Move) : Prop where
  split : ∃ later, moves = earlier ++ m :: later
  before : ∀ y, (t,y) ∉ (reached analyzer config gate earlier).ended
  ended : (t,x) ∈ (reached analyzer config gate (earlier ++ [m])).ended
  outcome : ∃ l,
    (reached analyzer config gate (earlier ++ [m])).store.ofGeneration? k.generation = some l ∧
    (reached analyzer config gate (earlier ++ [m])).Resolves k l x

inductive Follows (moves : List Move) (t : Ticket) (k : Terms) : Prop where
  | waiting (hu : (reached analyzer config gate moves).activity? t = some (.watch k.watch))
    (hn : ∀ x, (t,x) ∉ (reached analyzer config gate moves).ended)
  | ended {x earlier m} (hu : (reached analyzer config gate moves).activity? t = none)
    (hx : (t,x) ∈ (reached analyzer config gate moves).ended)
    (he : EndsIn analyzer config gate moves t k x earlier m)

variable {analyzer config gate} {moves : List Move} {t : Ticket} {k : Terms}

theorem EndsIn.concat {x : Ending P} {earlier : List Move} {m : Move}
    (h : EndsIn analyzer config gate moves t k x earlier m) (n : Move) :
    EndsIn analyzer config gate (moves ++ [n]) t k x earlier m := by
  obtain ⟨later,hs⟩ := h.split
  exact { h with split := ⟨later ++ [n], by rw [hs]; simp⟩ }

theorem follows_of_stands {m : Move} (hn : ∀ x, (t,x) ∉ (reached analyzer config gate moves).ended)
    (h : (reached analyzer config gate (moves ++ [m])).Stands t k) :
    Follows analyzer config gate (moves ++ [m]) t k := by
  cases h with
  | waiting hu hx => exact .waiting hu hx
  | resolved hu hx hl hr => exact .ended hu hx ⟨⟨[],rfl⟩,hn,hx,_,hl,hr⟩

theorem Follows.concat (h : Follows analyzer config gate moves t k) (m : Move) :
    Follows analyzer config gate (moves ++ [m]) t k := by
  have ho := orderly_reached analyzer config gate moves
  cases h with
  | waiting hu hn =>
    apply follows_of_stands hn
    rw [reached_concat]
    exact stands_waiting _ ho _ hu hn
  | ended hu hx he =>
    have hm := moved ⟨analyzer, config.updates⟩ ho m.engine
    rw [← reached_concat] at hm
    obtain ⟨hu',hx'⟩ := hm.still_ended ho hx
    exact .ended hu' hx' (he.concat m)

theorem follows_call {before : List Move} {place : Nat} {c : Call}
    (ht : (reached analyzer config gate before).ready[place]? = some t)
    (hc : (reached analyzer config gate before).activity? t = some (.call c))
    (hk : (reached analyzer config gate before).terms? c = some k) (more : List Move) :
    Follows analyzer config gate (before ++ .turn place :: more) t k := by
  have ho := orderly_reached analyzer config gate before
  induction more using List.reverseRecOn with
  | nil =>
    apply follows_of_stands
    · intro x hx
      rw [(ho.ended t x hx).2] at hc
      simp at hc
    · rw [reached_concat]
      exact stands_call _ ho ht hc hk
  | append_singleton more m ih => simpa using ih.concat m

theorem wait_outcome (analyzer : Analyzer P) (config : Config) (gate : Option Gate)
    (before more : List Move) (place : Nat) (t : Ticket) (c : Call) (k : Terms)
    (ht : (reached analyzer config gate before).ready[place]? = some t)
    (hc : (reached analyzer config gate before).activity? t = some (.call c))
    (hk : (reached analyzer config gate before).terms? c = some k) :
    let moves := before ++ .turn place :: more
    let e := reached analyzer config gate moves
    (e.isSettled = true → ((∃ a, e.activity? t = some a) ↔ e.Pending k)) ∧
    ((∃ a, e.activity? t = some a) ↔ ∀ x, (t,x) ∉ e.ended) ∧
    (e.ended.map (·.1)).count t ≤ 1 ∧
    ∀ x, (t,x) ∈ e.ended → ∃ earlier m later, moves = earlier ++ m :: later ∧
      (∀ y, (t,y) ∉ (reached analyzer config gate earlier).ended) ∧
      (t,x) ∈ (reached analyzer config gate (earlier ++ [m])).ended ∧
      ∃ l, (reached analyzer config gate (earlier ++ [m])).store.ofGeneration? k.generation = some l ∧
        (reached analyzer config gate (earlier ++ [m])).Resolves k l x := by
  intro moves e
  have hb := orderly_reached analyzer config gate before
  have hfirst : Follows analyzer config gate (before ++ [.turn place]) t k := by
    apply follows_of_stands
    · intro x hx
      rw [(hb.ended t x hx).2] at hc
      simp at hc
    · rw [reached_concat]
      exact stands_call _ hb ht hc hk
  have hfollows : Follows analyzer config gate moves t k := by
    change Follows analyzer config gate (before ++ .turn place :: more) t k
    induction more using List.reverseRecOn with
    | nil => exact hfirst
    | append_singleton more m ih =>
      have := ih.concat m
      simpa using this
  have ho : e.Orderly := orderly_reached analyzer config gate moves
  have ha : e.Attentive := attentive_reached analyzer config gate moves
  refine ⟨?_, ?_, List.nodup_iff_count.mp ho.once t, ?_⟩
  · intro hs
    obtain ⟨hready,hclock⟩ : e.ready = [] ∧ e.clock ≤ e.alarmed := by simpa [isSettled] using hs
    cases hfollows with
    | waiting hu =>
      obtain ⟨l,hl,_⟩ := ho.watched t k.watch hu
      have hn := ha t k.watch hu (by simp [hready])
      exact ⟨fun _ => (outcome?_pending ho hclock hl).mp hn, fun _ => ⟨_,hu⟩⟩
    | @ended x earlier m hu hx he =>
      obtain ⟨later,hmoves⟩ := he.split
      obtain ⟨l,hl,hr⟩ := he.outcome
      have hlater := later_reached analyzer config gate (earlier ++ [m]) later
      rw [List.append_assoc, List.singleton_append, ← hmoves] at hlater
      refine ⟨?_, fun hp => absurd hp (hr.not_pending hl hlater ho.valid)⟩
      rintro ⟨a,hau⟩
      exact absurd (hau.symm.trans hu) (by simp)
  · cases hfollows with
    | waiting hu hn => exact ⟨fun _ => hn, fun _ => ⟨_,hu⟩⟩
    | ended hu hx =>
      refine ⟨?_, fun hn => absurd hx (hn _)⟩
      rintro ⟨a,hau⟩
      exact absurd (hau.symm.trans hu) (by simp)
  · intro x hx
    cases hfollows with
    | waiting _ hn => exact absurd hx (hn x)
    | ended _ hx' he =>
      have hxx := List.inj_on_of_nodup_map ho.once hx hx' rfl
      cases hxx
      obtain ⟨later,hmoves⟩ := he.split
      exact ⟨_,_,later,hmoves,he.before,he.ended,he.outcome⟩

theorem wait_outcome_cancelled :
    let run := reached (fun _ _ _ => (.panicked : Verdict Nat)) {} (some {})
    let before : List Move := [.ask (.openDocument ⟨"file:///d"⟩ "x"),
      .ask (.call (.wait ⟨"file:///d"⟩ none 100 (some 7)))]
    let moves := before ++ .turn 1 :: [.turn 0, .ask (.cancel 7), .turn 1]
    let k : Terms := ⟨⟨"file:///d"⟩,1,.baseline,100,some 7,0⟩
    (run before).ready[1]? = some 1 ∧
    (run before).activity? 1 = some (.call (.wait ⟨"file:///d"⟩ none 100 (some 7))) ∧
    (run before).terms? (.wait ⟨"file:///d"⟩ none 100 (some 7)) = some k ∧
    (1,.refused (.cancelled ⟨"file:///d"⟩)) ∈ (run moves).ended ∧
    ¬ ∃ a, (run moves).activity? 1 = some a := by
  intro run before moves k
  have hx : (1,.refused (.cancelled ⟨"file:///d"⟩)) ∈ (run moves).ended := by decide +kernel
  have h := wait_outcome (fun _ _ _ => (.panicked : Verdict Nat)) {} (some {}) before
    [.turn 0, .ask (.cancel 7), .turn 1] 1 1 (.wait ⟨"file:///d"⟩ none 100 (some 7)) k
    (by decide +kernel) (by decide +kernel) (by decide +kernel)
  exact ⟨by decide +kernel, by decide +kernel, by decide +kernel, hx, fun ha => h.2.1.mp ha _ hx⟩

theorem long_wait_ends_early :
    let run := reached (fun _ _ _ => (.panicked : Verdict Nat)) {} (some {})
    let before : List Move := [.ask (.openDocument ⟨"file:///d"⟩ "x"),
      .ask (.call (.wait ⟨"file:///d"⟩ none 946080000001 none))]
    let e := run (before ++ .turn 1 :: [.turn 0, .turn 0, .ask (.advance 946080000000), .alarms,
      .turn 0])
    let k : Terms := ⟨⟨"file:///d"⟩,1,.baseline,946080000001,none,0⟩
    (run before).ready[1]? = some 1 ∧
    (run before).activity? 1 = some (.call (.wait ⟨"file:///d"⟩ none 946080000001 none)) ∧
    (run before).terms? (.wait ⟨"file:///d"⟩ none 946080000001 none) = some k ∧
    e.isSettled = true ∧ e.activity? 1 = none ∧
    (∃ l, e.store.ofGeneration? k.generation = some l ∧ Lacks l k) ∧ ¬ e.Cancelled k ∧
    e.stopped = false ∧ e.clock < k.since + k.timeout := by
  intro run before e k
  have hl : e.store.ofGeneration? 1 =
      some { id := ⟨"file:///d"⟩, generation := 1, text := "x" } := by decide +kernel
  refine ⟨by decide +kernel, by decide +kernel, by decide +kernel, by decide +kernel,
    by decide +kernel, ⟨_,hl,rfl,by simp⟩, ?_, by decide +kernel, by decide +kernel⟩
  rintro ⟨token,ht,_⟩
  simp [k] at ht

end Service

end LiveAnalysis
