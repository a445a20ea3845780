import LiveAnalysis.Proofs.Updates
import LiveAnalysis.Proofs.Waits

namespace LiveAnalysis

variable {P : Type}

/-! The texts that callers submit, and what a service makes of them. -/

inductive Submission where
  | opening (id : DocumentId) (text : String)
  | changing (id : DocumentId) (text : String)
  deriving DecidableEq, Repr

def Submission.id : Submission → DocumentId
  | .opening id _ => id
  | .changing id _ => id

def Submission.text : Submission → String
  | .opening _ text => text
  | .changing _ text => text

def Call.submission? : Call → Option Submission
  | .openAndWait id text _ => some (.opening id text)
  | .changeAndWait id text _ => some (.changing id text)
  | _ => none

def Activity.submission? : Activity P → Option Submission
  | .call c => c.submission?
  | _ => none

def Request.submission? : Request → Option Submission
  | .openDocument id text => some (.opening id text)
  | .change id text => some (.changing id text)
  | _ => none

namespace Engine

def submission? (e : Engine P) : Service.Move → Option Submission
  | .ask r => r.submission?
  | .turn place => (e.ready[place]?).bind fun t => (e.activity? t).bind Activity.submission?
  | _ => none

def entry (e : Engine P) (sub : Submission) : Except Refusal (Lifetime P) :=
  if e.stopped then .error .shutDown
  else
    match sub with
    | .opening id text =>
      match e.store.find? id with
      | some _ => .error (.alreadyOpen id)
      | none => .ok { id, generation := e.store.lifetimes.length + 1, text }
    | .changing id text =>
      match e.store.find? id with
      | some l => .ok { l with text, version := l.version.next }
      | none => .error (.notOpen id)

theorem noteOpened_error {e : Engine P} {id : DocumentId} {text : String} {why : Refusal} :
    e.noteOpened id text = .error why ↔ e.entry (.opening id text) = .error why := by
  unfold entry noteOpened ensureRunning openDocument Store.openDocument
  cases e.stopped <;> cases hf : e.store.find? id <;> simp [hf, bind, Except.bind, pure, Except.pure]

theorem noteChanged_error {e : Engine P} {id : DocumentId} {text : String} {why : Refusal} :
    e.noteChanged id text = .error why ↔ e.entry (.changing id text) = .error why := by
  unfold entry noteChanged ensureRunning change Store.change Store.get
  cases e.stopped <;> cases hf : e.store.find? id <;> simp [hf, bind, Except.bind, pure, Except.pure]

def SameTexts (e e' : Engine P) : Prop :=
  ∀ l' ∈ e'.store.lifetimes, ∃ l ∈ e.store.lifetimes, l.generation = l'.generation ∧
    l.version = l'.version ∧ l.text = l'.text

inductive Edits (e e' : Engine P) : Option Submission → Prop where
  | enters {sub l} (ha : e.entry sub = .ok l) (hs : ∀ l', l' ∈ e'.store.lifetimes ↔
      l' = l ∨ l' ∈ e.store.lifetimes ∧ l'.generation ≠ l.generation) : Edits e e' (some sub)
  | rejects {sub why} (ha : e.entry sub = .error why) (hs : SameTexts e e') : Edits e e' (some sub)
  | keeps (hs : SameTexts e e') : Edits e e' none

theorem sameTexts_of_store {e e' : Engine P} (h : e'.store = e.store) : SameTexts e e' :=
  fun l' hl' => ⟨l', h ▸ hl', rfl, rfl, rfl⟩

theorem Edits.of_store {e e' : Engine P} (h : e'.store = e.store) : Edits e e' none :=
  .keeps (sameTexts_of_store h)

theorem Edits.of_ready {e e' : Engine P} {ready : List Ticket} {o : Option Submission}
    (h : Edits { e with ready } e' o) : Edits e e' o := by
  cases h with
  | enters ha hs => exact .enters ha hs
  | rejects ha hs => exact .rejects ha hs
  | keeps hs => exact .keeps hs

theorem edits_opening {e e' : Engine P} (hv : e.store.Valid) {id : DocumentId} {text : String}
    (hr : e.stopped = false) (hs : e.store.openDocument id text = .ok e'.store) :
    Edits e e' (some (.opening id text)) := by
  obtain ⟨hn,hs⟩ := Store.openDocument_ok.mp hs
  refine .enters (l := { id, generation := e.store.lifetimes.length + 1, text }) ?_ ?_
  · simp [entry, hr, hn]
  · intro l'
    rw [hs, List.mem_cons]
    refine or_congr_right (iff_self_and.mpr fun hl' => ?_)
    have := (hv.bounded l' hl').2
    simp only
    omega

theorem edits_changing {e e' : Engine P} (hv : e.store.Valid) {id : DocumentId} {text : String}
    {v : Version} (hr : e.stopped = false) (hs : e.store.change id text = .ok (e'.store,v)) :
    Edits e e' (some (.changing id text)) := by
  obtain ⟨l,hl,_,hs⟩ := Store.change_ok.mp hs
  refine .enters (l := { l with text, version := l.version.next }) ?_ ?_
  · simp [entry, hr, hl]
  · intro l'
    rw [hs]
    exact hv.mem_update (Store.find?_spec hl).1

theorem edits_close {e e' : Engine P} (hv : e.store.Valid) {id : DocumentId} {g : Nat}
    (hs : e.store.close id = .ok (e'.store,g)) : Edits e e' none := by
  obtain ⟨l,hl,_,hs⟩ := Store.close_ok.mp hs
  refine .keeps fun l' hl' => ?_
  rw [hs] at hl'
  rcases (hv.mem_update (Store.find?_spec hl).1).mp hl' with rfl | ⟨hl',_⟩
  · exact ⟨l, (Store.find?_spec hl).1, rfl, rfl, rfl⟩
  · exact ⟨l', hl', rfl, rfl, rfl⟩

theorem edits_absorb {e e' : Engine P} (hv : e.store.Valid) {o : Option (Snapshot × Verdict P)}
    (hs : e'.store = e.store.absorb o) : Edits e e' none := by
  rcases hv.absorb_cases o with h | ⟨l,hl,f,_,h⟩
  · exact .of_store (hs.trans h)
  · refine .keeps fun l' hl' => ?_
    have hm := (Store.mem_openLifetimes.mp hl).1
    rw [hs, h] at hl'
    rcases (hv.mem_update hm).mp hl' with rfl | ⟨hl',_⟩
    · exact ⟨l, hm, rfl, rfl, rfl⟩
    · exact ⟨l', hl', rfl, rfl, rfl⟩

theorem endLoop_store (e : Engine P) (t : Ticket) : (e.endLoop t).store = e.store :=
  (wakeAll_store _ _).trans (wakeSome_store _ _)

theorem seek_store (e : Engine P) (t : Ticket) : (e.seek t).store = e.store := by
  unfold seek
  split
  · exact endLoop_store e t
  split
  · exact endLoop_store _ t
  dsimp only
  split <;> rfl

theorem judge_store (w : Worker P) (e : Engine P) (t owner : Ticket) (s : Snapshot) (call : Nat) :
    (e.judge w t owner s call).store = e.store := by
  obtain ⟨activities,ready,hd,_⟩ := (e.remove t).deliver_eq owner s (w.analyzer call s.text s.version)
  rw [judge, hd]
  rfl

theorem analysisTurn_store (w : Worker P) (e : Engine P) (t owner : Ticket) (s : Snapshot)
    (c : Option Nat) : (e.analysisTurn w t owner s c).store = e.store := by
  cases c with
  | some call => exact judge_store w e t owner s call
  | none =>
    simp only [analysisTurn]
    split
    · exact judge_store w _ t owner s _
    · split
      · exact judge_store w _ t owner s _
      · rfl

theorem loopTurn_store (w : Worker P) (e : Engine P) (t : Ticket) (stage : Stage P) :
    (e.loopTurn w t stage).store = e.store.absorb stage.verdict? := by
  cases stage with
  | idle => exact seek_store e t
  | underway s => rfl
  | judged s verdict => exact (seek_store _ t).trans (conclude_store w e s verdict)

theorem shutdownTurn_store (e : Engine P) (t : Ticket) (begun : Bool) :
    (e.shutdownTurn t begun).store = e.store := by
  cases begun with
  | true => rfl
  | false =>
    simp only [shutdownTurn]
    split
    · rfl
    · split <;> exact e.shutDown_store

variable (w : Worker P)

theorem edits_call {e : Engine P} (hv : e.store.Valid) {t : Ticket} (ht : t ≠ 0) (c : Call) :
    Edits e (e.callTurn t c) c.submission? := by
  have hfrom : ∀ id atLeast timeout token goal,
      Edits e (e.watchFrom t id atLeast timeout token goal) none :=
    fun id atLeast timeout token goal => .of_store (calm_watchFrom ht e id atLeast timeout token goal).store
  cases c with
  | wait id atLeast timeout token => exact hfrom _ _ _ _ _
  | openAndWait id text timeout =>
    simp only [callTurn]
    split
    · rename_i h
      exact .rejects (noteOpened_error.mp h) (sameTexts_of_store rfl)
    · rename_i h
      apply edits_opening hv (noteOpened_ok.mp h).1
      rw [(calm_watchFrom ht _ _ _ _ _ _).store]
      exact noteOpened_store h
  | changeAndWait id text timeout =>
    simp only [callTurn]
    split
    · rename_i h
      exact .rejects (noteChanged_error.mp h) (sameTexts_of_store rfl)
    · rename_i h
      apply edits_changing hv (noteChanged_ok.mp h).1
      rw [(calm_watchFrom ht _ _ _ _ _ _).store]
      exact noteChanged_store h
  | query id timeout =>
    simp only [callTurn]
    split
    · exact .of_store rfl
    · exact hfrom _ _ _ _ _

theorem edits_turn {e : Engine P} (hv : e.store.Valid) (hst : e.Staffed) (t : Ticket) :
    Edits e (e.turn w t) ((e.activity? t).bind Activity.submission?) := by
  unfold turn
  cases hu : e.activity? t with
  | none => exact .of_store rfl
  | some a =>
    have hne := hst.ticket_ne hu
    cases a with
    | loop stage => exact edits_absorb hv (loopTurn_store w e t stage)
    | analysis owner s c => exact .of_store (analysisTurn_store w e t owner s c)
    | call c => exact edits_call hv (hne (by simp)) c
    | watch v => exact .of_store (calm_watchTurn (hne (by simp)) e v).store
    | shutdown begun => exact .of_store (shutdownTurn_store e t begun)
    | _ =>
      rcases hst.others t _ (hne (by simp)) hu with hc | ⟨s,c,hc,_⟩
      · simp [Activity.isCaller] at hc
      · simp at hc

theorem hangUp_store (e : Engine P) : e.hangUp.store = e.store := by
  rcases e.hangUp_cases with h | ⟨h,_⟩
  · rw [h]
  · rw [h, shutQueue_store, stop_store]

theorem edits_ask {e : Engine P} (hv : e.store.Valid) (r : Request) :
    Edits e (e.move w (.ask r)) r.submission? := by
  have hr : Edits e e none := .of_store rfl
  cases r with
  | openDocument id text =>
    simp only [move, Service.receive]
    split
    · rename_i h
      exact edits_opening hv (noteOpened_ok.mp h).1 (noteOpened_store h)
    · rename_i h
      exact .rejects (noteOpened_error.mp h) (sameTexts_of_store rfl)
  | change id text =>
    simp only [move, Service.receive]
    split
    · rename_i h
      exact edits_changing hv (noteChanged_ok.mp h).1 (noteChanged_store h)
    · rename_i h
      exact .rejects (noteChanged_error.mp h) (sameTexts_of_store rfl)
  | close id =>
    simp only [move, Service.receive]
    split
    · rename_i h
      obtain ⟨_,hs⟩ := noteClosed_store h
      exact edits_close hv hs
    · exact hr
  | analyse id =>
    simp only [move, Service.receive]
    split
    · rename_i h
      exact .of_store (keeps_requestAnalysis h).2
    · exact hr
  | analyseAll ids =>
    have hs := (e.keeps_requestAnalyses ids).2
    simp only [move, Service.receive]
    split <;> rename_i h <;> rw [h] at hs <;> exact .of_store hs
  | call c => exact .of_store rfl
  | cancel token => exact .of_store (wakeAll_store _ _)
  | shutdown => exact .of_store rfl
  | abandon => exact .of_store (hangUp_store _)
  | release permits => exact .of_store (e.release_store permits)
  | advance ms => exact .of_store rfl

theorem edits {e : Engine P} (hv : e.store.Valid) (hst : e.Staffed) (m : Service.Move) :
    Edits e (e.move w m.engine) (e.submission? m) := by
  cases m with
  | ask r => exact edits_ask w hv r
  | turn place =>
    simp only [Service.Move.engine, move, submission?]
    cases e.ready[place]? with
    | none => exact .of_store rfl
    | some t =>
      have hst' : ({ e with ready := e.ready.eraseIdx place } : Engine P).Staffed :=
        ⟨hst.begun,hst.first,hst.others,hst.sole,hst.shut⟩
      exact Edits.of_ready (edits_turn w (e := { e with ready := e.ready.eraseIdx place }) hv hst' t)
  | alarms => exact .of_store (wakeAll_store _ _)
  | hangUp => exact .of_store (hangUp_store e)

theorem entry_ok {e : Engine P} {sub : Submission} {l : Lifetime P} (h : e.entry sub = .ok l) :
    e.stopped = false ∧
      ((∃ id text, sub = .opening id text ∧ e.store.find? id = none ∧
        l = { id, generation := e.store.lifetimes.length + 1, text }) ∨
      ∃ id text k, sub = .changing id text ∧ e.store.find? id = some k ∧
        l = { k with text, version := k.version.next }) := by
  unfold entry at h
  split at h
  · simp at h
  · rename_i hr
    refine ⟨by simpa using hr, ?_⟩
    cases sub with
    | opening id text =>
      dsimp only at h
      split at h
      · simp at h
      · rename_i hn
        cases h
        exact Or.inl ⟨id, text, rfl, hn, rfl⟩
    | changing id text =>
      dsimp only at h
      split at h
      · rename_i k hk
        cases h
        exact Or.inr ⟨id, text, k, rfl, hk, rfl⟩
      · simp at h

theorem entry_newer {e : Engine P} (hv : e.store.Valid) {sub : Submission} {l k : Lifetime P}
    (h : e.entry sub = .ok l) (hk : k ∈ e.store.lifetimes) (hg : k.generation = l.generation) :
    k.version < l.version := by
  obtain ⟨_,⟨id,text,_,_,rfl⟩ | ⟨id,text,k',_,hk',rfl⟩⟩ := entry_ok h
  · have := (hv.bounded k hk).2
    simp only at hg
    omega
  · rw [hv.eq_of_generation hk (Store.find?_spec hk').1 hg]
    exact k'.version.lt_next

theorem entry_id {e : Engine P} {sub : Submission} {l : Lifetime P} (h : e.entry sub = .ok l) :
    l.id = sub.id := by
  obtain ⟨_,⟨id,text,rfl,_,rfl⟩ | ⟨id,text,k,rfl,hk,rfl⟩⟩ := entry_ok h
  · rfl
  · exact (Store.find?_spec hk).2.1

theorem entry_text {e : Engine P} {sub : Submission} {l : Lifetime P} (h : e.entry sub = .ok l) :
    l.text = sub.text := by
  obtain ⟨_,⟨id,text,rfl,_,rfl⟩ | ⟨id,text,k,rfl,_,rfl⟩⟩ := entry_ok h <;> rfl

theorem entry_terms {e : Engine P} {c : Call} {sub : Submission} {l : Lifetime P}
    (hc : c.submission? = some sub) (h : e.entry sub = .ok l) :
    ∃ k, e.terms? c = some k ∧ k.generation = l.generation ∧ k.atLeast = l.version := by
  obtain ⟨hr,⟨id,text,rfl,hn,rfl⟩ | ⟨id,text,k,rfl,hk,rfl⟩⟩ := entry_ok h
  · cases c <;> simp [Call.submission?] at hc
    obtain ⟨rfl,rfl⟩ := hc
    simp [terms?, hr, hn]
  · cases c <;> simp [Call.submission?] at hc
    obtain ⟨rfl,rfl⟩ := hc
    simp [terms?, hr, hk]

theorem callTurn_rejected {e : Engine P} {c : Call} {sub : Submission} {why : Refusal}
    (hc : c.submission? = some sub) (h : e.entry sub = .error why) (t : Ticket) :
    e.callTurn t c = e.finish t (.refused why) := by
  cases c with
  | openAndWait id text timeout =>
    cases hc
    simp only [callTurn, noteOpened_error.mpr h]
  | changeAndWait id text timeout =>
    cases hc
    simp only [callTurn, noteChanged_error.mpr h]
  | _ => simp [Call.submission?] at hc

end Engine

namespace Service

open Engine

section Run

variable (analyzer : Analyzer P) (config : Config) (gate : Option Gate)

theorem edits_reached (moves : List Move) (m : Move) : Edits (reached analyzer config gate moves)
    (reached analyzer config gate (moves ++ [m]))
    ((reached analyzer config gate moves).submission? m) := by
  rw [reached_concat]
  exact edits _ (orderly_reached analyzer config gate moves).valid
    (staffed_reached analyzer config gate moves) m

structure Enters (moves : List Move) (m : Move) (sub : Submission) (l : Lifetime P) : Prop where
  submitted : (reached analyzer config gate moves).submission? m = some sub
  accepted : (reached analyzer config gate moves).entry sub = .ok l

def Entered (moves : List Move) (g : Nat) (v : Version) (text : String) : Prop :=
  ∃ before m later sub l, moves = before ++ m :: later ∧ Enters analyzer config gate before m sub l ∧
    l.generation = g ∧ l.version = v ∧ l.text = text

variable {analyzer config gate}

theorem Entered.concat {moves : List Move} {g : Nat} {v : Version} {text : String}
    (h : Entered analyzer config gate moves g v text) (m : Move) :
    Entered analyzer config gate (moves ++ [m]) g v text := by
  obtain ⟨before,n,later,sub,l,hmoves,hl⟩ := h
  exact ⟨before, n, later ++ [m], sub, l, by rw [hmoves]; simp, hl⟩

theorem Enters.mem {moves : List Move} {m : Move} {sub : Submission} {l : Lifetime P}
    (h : Enters analyzer config gate moves m sub l) :
    l ∈ (reached analyzer config gate (moves ++ [m])).store.lifetimes := by
  have he := edits_reached analyzer config gate moves m
  rw [h.submitted] at he
  cases he with
  | enters ha hs =>
    rw [h.accepted] at ha
    cases ha
    exact (hs l).mpr (Or.inl rfl)
  | rejects ha =>
    rw [h.accepted] at ha
    cases ha

theorem had_entered {moves : List Move} {g : Nat} {v : Version} {text : String}
    (h : Had analyzer config gate moves g v text) : Entered analyzer config gate moves g v text := by
  induction moves using List.reverseRecOn with
  | nil =>
    obtain ⟨x,hx,l,hl,_⟩ := h
    simp only [List.map_nil, Engine.states, List.mem_singleton] at hx
    rw [hx, (blank_start analyzer config gate).lifetimes] at hl
    simp at hl
  | append_singleton moves m ih =>
    rcases (had_concat analyzer config gate).mp h with h | ⟨l',hl',rfl,rfl,rfl⟩
    · exact (ih h).concat m
    have hd := (sourced_reached analyzer config gate moves).texts
    have hsame : SameTexts (reached analyzer config gate moves)
        (reached analyzer config gate (moves ++ [m])) →
        Entered analyzer config gate (moves ++ [m]) l'.generation l'.version l'.text := by
      intro hs
      obtain ⟨l,hl,hg,hv,ht⟩ := hs l' hl'
      have hold := hd l hl
      rw [hg, hv, ht] at hold
      exact (ih hold).concat m
    generalize ho : (reached analyzer config gate moves).submission? m = o
    cases ho ▸ edits_reached analyzer config gate moves m with
    | @enters sub l ha hs =>
      rcases (hs l').mp hl' with rfl | ⟨hold,_⟩
      · exact ⟨moves, m, [], sub, l', rfl, ⟨ho,ha⟩, rfl, rfl, rfl⟩
      · exact (ih (hd l' hold)).concat m
    | rejects _ hs => exact hsame hs
    | keeps hs => exact hsame hs

theorem first_turn {before more : List Move} {t : Ticket} {a : Activity P} {x : Ending P}
    (hu : (reached analyzer config gate before).activity? t = some a) (ha : a.isWorker = false)
    (hx : (t,x) ∈ (reached analyzer config gate (before ++ more)).ended) :
    ∃ waited place later, more = waited ++ .turn place :: later ∧
      (reached analyzer config gate (before ++ waited)).activity? t = some a ∧
      (reached analyzer config gate (before ++ waited)).ready[place]? = some t := by
  induction more generalizing before with
  | nil =>
    rw [List.append_nil] at hx
    have hn := ((orderly_reached analyzer config gate before).ended t x hx).2
    simp [hn] at hu
  | cons m more ih =>
    have ho := orderly_reached analyzer config gate before
    by_cases ht : (reached analyzer config gate before).turning? m.engine = some t
    · cases m with
      | turn place =>
        rw [← List.append_nil before] at hu ht
        exact ⟨[], place, more, rfl, hu, ht⟩
      | _ => simp [turning?, Move.engine] at ht
    · have hm := moved ⟨analyzer, config.updates⟩ ho m.engine
      rw [← reached_concat] at hm
      rw [List.append_cons] at hx
      obtain ⟨waited,place,later,hmore,hu',hr⟩ := ih (hm.still_waits hu ha ht) (by simpa using hx)
      exact ⟨m :: waited, place, later, by rw [hmore]; rfl, by simpa using hu', by simpa using hr⟩

theorem stays_ended_reached {moves : List Move} {t : Ticket} {x : Ending P}
    (hx : (t,x) ∈ (reached analyzer config gate moves).ended) (more : List Move) :
    (reached analyzer config gate (moves ++ more)).activity? t = none ∧
      (t,x) ∈ (reached analyzer config gate (moves ++ more)).ended := by
  induction more using List.reverseRecOn with
  | nil =>
    rw [List.append_nil]
    exact ⟨((orderly_reached analyzer config gate moves).ended t x hx).2, hx⟩
  | append_singleton more m ih =>
    have ho := orderly_reached analyzer config gate (moves ++ more)
    rw [← List.append_assoc, reached_concat]
    exact (moved _ ho m.engine).still_ended ho ih.2

theorem ended_once {moves : List Move} {t : Ticket} {x y : Ending P}
    (hx : (t,x) ∈ (reached analyzer config gate moves).ended)
    (hy : (t,y) ∈ (reached analyzer config gate moves).ended) : x = y :=
  congrArg Prod.snd (List.inj_on_of_nodup_map (orderly_reached analyzer config gate moves).once hx hy rfl)

theorem split_at {α : Type} {xs ys zs ws : List α} {a b : α} (h : xs ++ a :: ys = zs ++ b :: ws) :
    (∃ mid, xs = zs ++ b :: mid) ∨ (xs = zs ∧ a = b) ∨ ∃ mid, zs = xs ++ a :: mid ∧ ys = mid ++ b :: ws := by
  rcases List.append_eq_append_iff.mp h with ⟨mid,rfl,hmid⟩ | ⟨mid,rfl,hmid⟩
  · cases mid with
    | nil => simp_all
    | cons c mid =>
      simp only [List.cons_append, List.cons.injEq] at hmid
      obtain ⟨rfl,rfl⟩ := hmid
      exact Or.inr (Or.inr ⟨mid,rfl,rfl⟩)
  · cases mid with
    | nil => simp_all
    | cons c mid =>
      simp only [List.cons_append, List.cons.injEq] at hmid
      obtain ⟨rfl,rfl⟩ := hmid
      exact Or.inl ⟨mid,rfl⟩

theorem consulted_append {moves : List Move} (more : List Move) {a : Nat × Snapshot}
    (h : a ∈ consulted analyzer config gate moves) :
    a ∈ consulted analyzer config gate (moves ++ more) := by
  unfold consulted Engine.consulted at h ⊢
  rw [List.map_append, record_append]
  exact List.mem_append_left _ h

theorem had_append {moves : List Move} (more : List Move) {g : Nat} {v : Version} {text : String}
    (h : Had analyzer config gate moves g v text) : Had analyzer config gate (moves ++ more) g v text := by
  induction more using List.reverseRecOn with
  | nil => simpa using h
  | append_singleton more m ih =>
    rw [← List.append_assoc]
    exact (had_concat analyzer config gate).mpr (Or.inl ih)

theorem Enters.before {moves later : List Move} {m : Move} {sub sub' : Submission} {l k : Lifetime P}
    (h : Enters analyzer config gate moves m sub l)
    (hk : (reached analyzer config gate (moves ++ m :: later)).entry sub' = .ok k)
    (hg : l.generation = k.generation) : l.version < k.version := by
  have hlater := later_reached analyzer config gate (moves ++ [m]) later
  rw [List.append_assoc, List.singleton_append] at hlater
  obtain ⟨l',hl',he⟩ := hlater.store.kept l h.mem
  have hv := (orderly_reached analyzer config gate (moves ++ m :: later)).valid
  exact Nat.lt_of_le_of_lt he.version (entry_newer hv hk hl' (he.generation.trans hg))

theorem Enters.after {moves later : List Move} {m n : Move} {sub sub' : Submission} {l k : Lifetime P}
    (h : Enters analyzer config gate moves m sub l)
    (hk : Enters analyzer config gate (moves ++ m :: later) n sub' k)
    (hg : l.generation = k.generation) : sub' = .changing l.id k.text := by
  have hlater := later_reached analyzer config gate (moves ++ [m]) later
  rw [List.append_assoc, List.singleton_append] at hlater
  obtain ⟨l',hl',he⟩ := hlater.store.kept l h.mem
  have hv := (orderly_reached analyzer config gate (moves ++ m :: later)).valid
  obtain ⟨_,⟨id,text,rfl,_,rfl⟩ | ⟨id,text,k',rfl,hk',rfl⟩⟩ := entry_ok hk.accepted
  · have := (hv.bounded l' hl').2
    rw [he.generation, hg] at this
    simp only at this
    omega
  · obtain ⟨hm,hid,_⟩ := Store.find?_spec hk'
    rw [← he.id, hv.eq_of_generation hl' hm (he.generation.trans hg), hid]

theorem own_or_later {first later : List Move} {m : Move} {sub : Submission} {l : Lifetime P}
    (h : Enters analyzer config gate first m sub l) {v : Version} {text : String}
    (hv : l.version ≤ v)
    (he : Entered analyzer config gate (first ++ m :: later) l.generation v text) :
    (v = l.version ∧ text = l.text) ∨ ∃ mid n rest k, later = mid ++ n :: rest ∧
      Enters analyzer config gate (first ++ m :: mid) n (.changing l.id text) k ∧
      k.generation = l.generation ∧ k.version = v := by
  obtain ⟨before,n,rest,sub',k,hsplit,hk,hg,rfl,rfl⟩ := he
  rcases split_at hsplit with ⟨mid,rfl⟩ | ⟨rfl,rfl⟩ | ⟨mid,rfl,rfl⟩
  · exact absurd hv (Version.not_le_of_lt (hk.before h.accepted hg))
  · cases h.submitted.symm.trans hk.submitted
    cases h.accepted.symm.trans hk.accepted
    exact Or.inl ⟨rfl,rfl⟩
  · have hsub := h.after hk hg.symm
    subst hsub
    exact Or.inr ⟨mid, n, rest, k, rfl, hk, hg, rfl⟩

theorem rejected_call {moves : List Move} {place : Nat} {t : Ticket} {c : Call} {sub : Submission}
    {why : Refusal} (hr : (reached analyzer config gate moves).ready[place]? = some t)
    (hu : (reached analyzer config gate moves).activity? t = some (.call c))
    (hsub : c.submission? = some sub)
    (hwhy : (reached analyzer config gate moves).entry sub = .error why) :
    ∃ ready, reached analyzer config gate (moves ++ [.turn place]) =
      ({ reached analyzer config gate moves with ready } : Engine P).finish t (.refused why) := by
  have ht : (reached analyzer config gate moves).turning? (Move.turn place).engine = some t := hr
  obtain ⟨ready,he⟩ := move_turning ⟨analyzer, config.updates⟩ ht
  have hu' : ({ reached analyzer config gate moves with ready } : Engine P).activity? t =
    some (.call c) := hu
  refine ⟨ready, ?_⟩
  rw [reached_concat, he]
  simp only [turn, hu']
  exact callTurn_rejected (e := { reached analyzer config gate moves with ready }) hsub hwhy t

theorem found_computed {moves : List Move} {t : Ticket} {k : Terms} {f : Finding P}
    (h : Follows analyzer config gate moves t k)
    (hx : (t,.found f) ∈ (reached analyzer config gate moves).ended) : k.atLeast ≤ f.version ∧
      ∃ l ∈ (reached analyzer config gate moves).store.lifetimes, l.generation = k.generation ∧
      ∃ call s, (call,s) ∈ consulted analyzer config gate moves ∧ s.id = l.id ∧
        s.generation = k.generation ∧ s.version = f.version ∧
        analyzer call s.text s.version = .found f.payload ∧
        Had analyzer config gate moves k.generation f.version s.text := by
  cases h with
  | waiting _ hn => exact absurd hx (hn _)
  | @ended x earlier m _ hx' he =>
    cases ended_once hx hx'
    obtain ⟨rest,hsplit⟩ := he.split
    obtain ⟨l,hl,hres⟩ := he.outcome
    obtain ⟨hlatest,hle⟩ : l.slot.latest = some f ∧ k.atLeast ≤ f.version := by
      cases hres with
      | found hf hv => exact ⟨hf,hv⟩
    obtain ⟨hm,hg⟩ := Store.ofGeneration?_spec hl
    obtain ⟨hid,_,call,s,hcomp⟩ :=
      (sourced_reached analyzer config gate (earlier ++ [m])).findings l hm f hlatest
    obtain ⟨l',hl',hev⟩ :=
      (later_reached analyzer config gate (earlier ++ [m]) rest).store.kept l hm
    have hcalled := consulted_append rest hcomp.called
    have hhad := had_append rest hcomp.had_text
    rw [List.append_assoc, List.singleton_append, ← hsplit] at hl' hcalled hhad
    exact ⟨hle, l', hl', hev.generation.trans hg, call, s, hcalled,
      hcomp.same_id.trans (hid.trans hev.id.symm), hcomp.same_generation.trans hg,
      hcomp.same_version, hcomp.found, hg ▸ hhad⟩

end Run

theorem reads_own_write (analyzer : Analyzer P) (config : Config) (gate : Option Gate)
    (before more : List Move) (t : Ticket) (c : Call) (sub : Submission)
    (hc : (reached analyzer config gate before).activity? t = some (.call c))
    (hsub : c.submission? = some sub) (x : Ending P)
    (hx : (t,x) ∈ (reached analyzer config gate (before ++ more)).ended) :
    ∃ waited place later, more = waited ++ .turn place :: later ∧
      let first := before ++ waited
      let e := reached analyzer config gate first
      e.activity? t = some (.call c) ∧ e.ready[place]? = some t ∧
      (∀ why, e.entry sub = .error why → x = .refused why ∧
        (∃ ready, reached analyzer config gate (first ++ [.turn place]) =
          ({ e with ready } : Engine P).finish t (.refused why)) ∧
        ∀ mid rest, later = mid ++ rest →
          (reached analyzer config gate (first ++ .turn place :: mid)).activity? t = none) ∧
      ∀ l f, e.entry sub = .ok l → x = .found f → l.version ≤ f.version ∧
        ∃ call s, (call,s) ∈ consulted analyzer config gate (before ++ more) ∧ s.id = sub.id ∧
          s.generation = l.generation ∧ s.version = f.version ∧
          analyzer call s.text s.version = .found f.payload ∧
          (s.version = l.version ∧ s.text = sub.text ∨
            ∃ mid m rest k, later = mid ++ m :: rest ∧
              Enters analyzer config gate (first ++ .turn place :: mid) m (.changing sub.id s.text) k ∧
              k.generation = l.generation ∧ k.version = s.version) := by
  obtain ⟨waited,place,later,rfl,hu,hr⟩ := first_turn hc rfl hx
  refine ⟨waited, place, later, rfl, hu, hr, ?_, ?_⟩
  · intro why hwhy
    obtain ⟨ready,hend⟩ := rejected_call hr hu hsub hwhy
    have hmem : (t,.refused why) ∈
        (reached analyzer config gate (before ++ waited ++ [.turn place])).ended := by
      rw [hend]
      exact List.mem_append_right _ (List.mem_singleton.mpr rfl)
    refine ⟨?_, ⟨ready,hend⟩, ?_⟩
    · have hlast := (stays_ended_reached hmem later).2
      simp only [List.append_assoc, List.singleton_append] at hlast
      exact ended_once hx hlast
    · intro mid rest _
      have hnone := (stays_ended_reached hmem mid).1
      simpa only [List.append_assoc, List.singleton_append] using hnone
  · rintro l f hl rfl
    have henters : Enters analyzer config gate (before ++ waited) (.turn place) sub l := by
      refine ⟨?_, hl⟩
      simp [submission?, hr, hu, Activity.submission?, hsub]
    obtain ⟨k,hk,hkg,hkv⟩ := entry_terms hsub hl
    have hfollows := follows_call hr hu hk later
    rw [← List.append_assoc] at hx ⊢
    obtain ⟨hle,l',hl',hg',call,s,hcall,hid,hg,hv,hfound,hhad⟩ := found_computed hfollows hx
    obtain ⟨x,hxm,hev⟩ := (later_reached analyzer config gate
      (before ++ waited ++ [.turn place]) later).store.kept l henters.mem
    rw [List.append_assoc (before ++ waited), List.singleton_append] at hxm
    have hvalid := (orderly_reached analyzer config gate (before ++ waited ++ .turn place :: later)).valid
    have hxl : x = l' := hvalid.eq_of_generation hxm hl' (hev.generation.trans (hkg.symm.trans hg'.symm))
    have hlid : l.id = sub.id := entry_id hl
    have htext : l.text = sub.text := entry_text hl
    refine ⟨hkv ▸ hle, call, s, hcall, ?_, hg.trans hkg, hv, hfound, ?_⟩
    · rw [hid, ← hxl, hev.id, hlid]
    · rw [hkg] at hhad
      rw [← htext, ← hlid, hv]
      exact own_or_later henters (hkv ▸ hle) (had_entered hhad)

theorem reads_own_write_overtaken :
    let analyzer : Analyzer String := fun _ text _ => .found text
    let id : DocumentId := ⟨"file:///d"⟩
    let before : List Move := [.ask (.call (.openAndWait id "a" 100))]
    let more : List Move := [.turn 1, .ask (.change id "b"), .turn 0, .turn 0, .turn 0, .turn 0]
    (reached analyzer {} none before).activity? 1 = some (.call (.openAndWait id "a" 100)) ∧
    (1,.found ⟨id,⟨1⟩,"b"⟩) ∈ (reached analyzer {} none (before ++ more)).ended ∧
    ∃ waited place later, more = waited ++ .turn place :: later ∧
      ∀ l, (reached analyzer {} none (before ++ waited)).entry (.opening id "a") = .ok l →
        l.version ≤ ⟨1⟩ ∧ ∃ call s, (call,s) ∈ consulted analyzer {} none (before ++ more) ∧
          s.id = id ∧ s.generation = l.generation ∧ s.version = ⟨1⟩ ∧ s.text = "b" := by
  intro analyzer id before more
  have hc : (reached analyzer {} none before).activity? 1 = some (.call (.openAndWait id "a" 100)) := by
    decide +kernel
  have hx : (1,.found ⟨id,⟨1⟩,"b"⟩) ∈ (reached analyzer {} none (before ++ more)).ended := by
    decide +kernel
  obtain ⟨waited,place,later,hmore,_,_,_,hfound⟩ :=
    reads_own_write analyzer {} none before more 1 _ (.opening id "a") hc rfl _ hx
  refine ⟨hc, hx, waited, place, later, hmore, fun l hl => ?_⟩
  obtain ⟨hle,call,s,hcall,hid,hg,hv,htext,_⟩ := hfound l _ hl rfl
  exact ⟨hle, call, s, hcall, hid, hg, hv, Verdict.found.inj htext⟩

end Service

end LiveAnalysis
