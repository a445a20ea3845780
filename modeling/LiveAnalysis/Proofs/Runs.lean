import LiveAnalysis.Service
import LiveAnalysis.Proofs.Turns

namespace LiveAnalysis

variable {P : Type}

/-! What may happen next: any request, and the turn of any activity that is ready. -/

inductive Task where
  | take
  | process (id : DocumentId)
  | loop
  | wait (line : Nat) (atLeast : Version)
  deriving DecidableEq, Repr

def Task.activity : Task → Activity P
  | .take => .take
  | .process id => .process id .idle
  | .loop => .loop .idle
  | .wait line atLeast => .wait line atLeast

inductive Engine.Move where
  | ask (r : Request)
  | turn (place : Nat)
  | alarms
  | hangUp
  | openDocument (id : DocumentId) (text : String)
  | change (id : DocumentId) (text : String)
  | close (id : DocumentId)
  | enqueue (id : DocumentId)
  | remove (id : DocumentId)
  | subscribe (id : DocumentId)
  | shutQueue
  | stop
  | start (task : Task)
  deriving DecidableEq, Repr

inductive Service.Move where
  | ask (r : Request)
  | turn (place : Nat)
  | alarms
  | hangUp
  deriving DecidableEq, Repr

def Service.Move.engine : Service.Move → Engine.Move
  | .ask r => .ask r
  | .turn place => .turn place
  | .alarms => .alarms
  | .hangUp => .hangUp

namespace Engine

variable (w : Worker P)

def turning? (e : Engine P) : Move → Option Ticket
  | .turn place => e.ready[place]?
  | _ => none

def move (e : Engine P) : Move → Engine P
  | .ask r => ((⟨w, {}, e⟩ : Service P).receive r).1.engine
  | .turn place =>
    match e.ready[place]? with
    | none => e
    | some t => { e with ready := e.ready.eraseIdx place }.turn w t
  | .alarms => e.soundAlarms
  | .hangUp => e.hangUp
  | .openDocument id text =>
    match e.openDocument id text with
    | .ok e => e
    | .error _ => e
  | .change id text =>
    match e.change id text with
    | .ok (e, _) => e
    | .error _ => e
  | .close id =>
    match e.close id with
    | .ok e => e
    | .error _ => e
  | .enqueue id => (e.enqueue id).1
  | .remove id => { e with queue := (e.queue.remove id).1 }
  | .subscribe id =>
    match e.subscribe id with
    | .ok (e, _) => e
    | .error _ => e
  | .shutQueue => e.shutQueue
  | .stop => e.stop
  | .start task => e.start task.activity

def after (e : Engine P) (moves : List Move) : Engine P :=
  moves.foldl (move w) e

def states (e : Engine P) : List Move → List (Engine P)
  | [] => [e]
  | m :: moves => e :: (e.move w m).states moves

def record {α : Type} (f : Engine P → Move → Option α) (e : Engine P) : List Move → List α
  | [] => []
  | m :: moves => (f e m).toList ++ record f (e.move w m) moves

theorem after_cons (e : Engine P) (m : Move) (moves : List Move) :
    e.after w (m :: moves) = (e.move w m).after w moves := rfl

theorem after_append (e : Engine P) (moves more : List Move) :
    e.after w (moves ++ more) = (e.after w moves).after w more :=
  List.foldl_append

theorem after_concat (e : Engine P) (moves : List Move) (m : Move) :
    e.after w (moves ++ [m]) = (e.after w moves).move w m :=
  after_append w e moves [m]

theorem record_append {α : Type} (f : Engine P → Move → Option α) (e : Engine P)
    (moves more : List Move) :
    e.record w f (moves ++ more) = e.record w f moves ++ (e.after w moves).record w f more := by
  induction moves generalizing e with
  | nil => rfl
  | cons m moves ih => simp only [List.cons_append, record, ih, after_cons, List.append_assoc]

theorem record_concat {α : Type} (f : Engine P → Move → Option α) (e : Engine P)
    (moves : List Move) (m : Move) :
    e.record w f (moves ++ [m]) = e.record w f moves ++ (f (e.after w moves) m).toList := by
  rw [record_append]
  simp [record]

theorem states_concat (e : Engine P) (moves : List Move) (m : Move) :
    e.states w (moves ++ [m]) = e.states w moves ++ [e.after w (moves ++ [m])] := by
  induction moves generalizing e with
  | nil => rfl
  | cons n moves ih =>
    simp only [List.cons_append, states, ih, after_cons]

theorem mem_states {e x : Engine P} {moves : List Move} :
    x ∈ e.states w moves ↔ ∃ before after, moves = before ++ after ∧ x = e.after w before := by
  induction moves generalizing e with
  | nil => simp [states, after]
  | cons m moves ih =>
    rw [states, List.mem_cons, ih]
    constructor
    · rintro (rfl | ⟨before,after,rfl,rfl⟩)
      · exact ⟨[],m :: moves,rfl,rfl⟩
      · exact ⟨m :: before,after,rfl,rfl⟩
    · rintro ⟨before,after,h,rfl⟩
      cases before with
      | nil => exact Or.inl rfl
      | cons n before =>
        simp only [List.cons_append, List.cons.injEq] at h
        obtain ⟨rfl,rfl⟩ := h
        exact Or.inr ⟨before,after,rfl,rfl⟩

end Engine

namespace Service

def move (s : Service P) : Move → Service P
  | .ask r => (s.receive r).1
  | .turn place => { s with engine := s.engine.move s.worker (.turn place) }
  | .alarms => { s with engine := s.engine.soundAlarms }
  | .hangUp => { s with engine := s.engine.hangUp }

def after (s : Service P) (moves : List Move) : Service P :=
  moves.foldl move s

theorem after_cons (s : Service P) (m : Move) (moves : List Move) :
    s.after (m :: moves) = (s.move m).after moves := rfl

theorem after_append (s : Service P) (moves more : List Move) :
    s.after (moves ++ more) = (s.after moves).after more :=
  List.foldl_append

theorem after_concat (s : Service P) (moves : List Move) (m : Move) :
    s.after (moves ++ [m]) = (s.after moves).move m :=
  s.after_append moves [m]

theorem receive_eq (s : Service P) (r : Request) :
    (s.receive r).1 =
      { s with engine := ((⟨s.worker, {}, s.engine⟩ : Service P).receive r).1.engine } := by
  cases r with
  | openDocument id text => simp only [receive]; split <;> rfl
  | change id text => simp only [receive]; split <;> rfl
  | close id => simp only [receive]; split <;> rfl
  | analyse id => simp only [receive]; split <;> rfl
  | analyseAll ids => simp only [receive]; split <;> rfl
  | _ => rfl

theorem move_eq (s : Service P) (m : Move) :
    s.move m = { s with engine := s.engine.move s.worker m.engine } := by
  cases m with
  | ask r => exact s.receive_eq r
  | _ => rfl

theorem after_eq (s : Service P) (moves : List Move) :
    s.after moves = { s with engine := s.engine.after s.worker (moves.map Move.engine) } := by
  induction moves generalizing s with
  | nil => rfl
  | cons m moves ih =>
    rw [after_cons, ih, move_eq]
    rfl

theorem move_engine (s : Service P) (m : Move) :
    (s.move m).engine = s.engine.move s.worker m.engine := by
  rw [move_eq]

theorem after_worker (s : Service P) (moves : List Move) : (s.after moves).worker = s.worker := by
  rw [after_eq]

def reached (analyzer : Analyzer P) (config : Config) (gate : Option Gate) (moves : List Move) :
    Engine P :=
  ((Service.start analyzer config gate).after moves).engine

section Reached

variable (analyzer : Analyzer P) (config : Config) (gate : Option Gate)

theorem reached_concat (moves : List Move) (m : Move) :
    reached analyzer config gate (moves ++ [m]) =
      (reached analyzer config gate moves).move ⟨analyzer, config.updates⟩ m.engine := by
  unfold reached
  rw [after_concat, move_engine, after_worker]
  rfl

theorem reached_eq (moves : List Move) : reached analyzer config gate moves =
    (reached analyzer config gate []).after ⟨analyzer, config.updates⟩ (moves.map Move.engine) := by
  unfold reached
  rw [after_eq]
  rfl

end Reached

theorem step_after (s : Service P) : ∃ moves, s.step = s.after moves := by
  unfold step Engine.step
  split
  · exact ⟨[.alarms],rfl⟩
  · rename_i t rest h
    refine ⟨[.turn 0, .hangUp],?_⟩
    simp [after, move, Engine.move, h]

theorem startNow_eq {s : Service P} {ready : List Ticket} {t : Ticket} (hr : s.engine.ready = ready ++ [t]) :
    s.startNow = s.move (.turn ready.length) := by
  simp [startNow, move, Engine.move, hr, List.eraseIdx_append_of_length_le]

theorem startNow_after (s : Service P) : ∃ moves, s.startNow = s.after moves := by
  unfold startNow
  split
  · exact ⟨[],rfl⟩
  · rename_i t h
    refine ⟨[.turn (s.engine.ready.length - 1)],?_⟩
    rw [List.getLast?_eq_getElem?] at h
    simp [after, move, Engine.move, h, List.eraseIdx_length_sub_one]

theorem settle_after (s : Service P) : ∃ moves, s.settle = s.after moves := by
  have hr : ∀ n (s : Service P),
      ∃ moves, { s with engine := s.engine.run s.worker n } = s.after moves := by
    intro n
    induction n with
    | zero => exact fun s => ⟨[],rfl⟩
    | succ n ih =>
      intro s
      simp only [Engine.run]
      split
      · exact ⟨[],rfl⟩
      · obtain ⟨first,h⟩ := s.step_after
        obtain ⟨rest,k⟩ := ih s.step
        refine ⟨first ++ rest,?_⟩
        rw [after_append, ← h, ← k]
        rfl
  exact hr _ s

end Service

end LiveAnalysis
