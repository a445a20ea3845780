import LiveAnalysis.Proofs.Parallel

namespace LiveAnalysis

variable {P : Type}

namespace Engine

variable {w : Worker P} {e e' : Engine P} {t u : Ticket}

def atGate (e : Engine P) : List Ticket :=
  (e.gate.map (·.waiting)).getD []

theorem atGate_congr (h : e'.gate = e.gate) : e'.atGate = e.atGate := by
  rw [atGate, h, atGate]

theorem wakeAll_gate (e : Engine P) (ts : List Ticket) : (e.wakeAll ts).gate = e.gate := by
  rw [wakeAll_eq]

theorem wakeSome_gate (e : Engine P) (t : Option Ticket) : (e.wakeSome t).gate = e.gate := by
  rw [wakeSome_eq]

theorem enqueue_gate (e : Engine P) (id : DocumentId) : (e.enqueue id).1.gate = e.gate := by
  unfold enqueue
  dsimp only
  split
  · exact wakeSome_gate _ _
  · rfl

theorem noteOpened_gate {id : DocumentId} {text : String} (h : e.noteOpened id text = .ok e') :
    e'.gate = e.gate := by
  obtain ⟨_,e₁,h₁,rfl⟩ := noteOpened_ok.mp h
  obtain ⟨store,_,rfl⟩ := openDocument_ok.mp h₁
  exact enqueue_gate _ id

theorem noteChanged_gate {id : DocumentId} {text : String} {v : Version}
    (h : e.noteChanged id text = .ok (e',v)) : e'.gate = e.gate := by
  obtain ⟨store,_,rfl⟩ := change_ok.mp (noteChanged_ok.mp h).2
  exact enqueue_gate _ id

theorem noteClosed_gate {id : DocumentId} (h : e.noteClosed id = .ok e') : e'.gate = e.gate := by
  obtain ⟨_,e₁,h₁,rfl⟩ := noteClosed_ok.mp h
  obtain ⟨store,g,_,rfl⟩ := close_ok.mp h₁
  exact wakeAll_gate _ _

theorem requestAnalysis_gate {id : DocumentId} {outcome : Enqueued}
    (h : e.requestAnalysis id = .ok (e',outcome)) : e'.gate = e.gate := by
  obtain ⟨_,_,he⟩ := requestAnalysis_ok.mp h
  have hq := enqueue_gate e id
  rwa [he] at hq

theorem requestAnalyses_gate (e : Engine P) (ids : List DocumentId) :
    (e.requestAnalyses ids).1.gate = e.gate := by
  induction ids generalizing e with
  | nil => rfl
  | cons id ids ih =>
    simp only [requestAnalyses]
    split
    · exact (ih _).trans (requestAnalysis_gate ‹_›)
    · rfl

theorem conclude_gate (w : Worker P) (e : Engine P) (s : Snapshot) (verdict : Verdict P) :
    (conclude w e s verdict).1.gate = e.gate := by
  have hp : ∀ payload, (e.publish s payload).1.gate = e.gate := by
    intro payload
    unfold publish
    dsimp only
    split
    · exact wakeAll_gate _ _
    · rfl
  cases verdict with
  | found payload =>
    simp only [conclude]
    split <;> exact hp payload
  | _ => rfl

theorem seek_gate (e : Engine P) (t : Ticket) : (e.seek t).gate = e.gate := by
  have hend : ∀ e' : Engine P, (e'.endLoop t).gate = e'.gate := by
    intro e'
    simp only [endLoop]
    rw [wakeAll_gate, wakeSome_gate]
    rfl
  unfold seek
  split
  · exact hend e
  split
  · exact hend _
  dsimp only
  split <;> rfl

theorem loopTurn_gate (w : Worker P) (e : Engine P) (t : Ticket) (stage : Stage P) :
    (e.loopTurn w t stage).gate = e.gate := by
  cases stage with
  | idle => exact e.seek_gate t
  | underway s => rfl
  | judged s verdict => exact (seek_gate _ t).trans (conclude_gate w e s verdict)

theorem judge_gate (w : Worker P) (e : Engine P) (t owner : Ticket) (s : Snapshot) (call : Nat) :
    (e.judge w t owner s call).gate = e.gate := by
  unfold judge deliver
  split
  · rw [wake_eq]
    rfl
  · rw [wake_eq]
    rfl
  · rfl

theorem analysisTurn_gate (w : Worker P) (e : Engine P) (t owner : Ticket) (s : Snapshot) (c : Option Nat)
    (hu : u ∈ (e.analysisTurn w t owner s c).atGate) : u ∈ e.atGate ∨ u = t := by
  cases c with
  | some call => exact Or.inl (atGate_congr (e.judge_gate w t owner s call) ▸ hu)
  | none =>
    simp only [analysisTurn] at hu
    split at hu
    · rw [atGate, judge_gate] at hu
      exact Or.inl hu
    · rename_i g hg
      split at hu
      · rename_i g' ha
        rw [atGate, judge_gate] at hu
        rw [Gate.arrive] at ha
        split at ha <;> cases ha
        left
        rw [atGate, hg]
        exact hu
      · rename_i g' ha
        rw [Gate.arrive] at ha
        split at ha <;> cases ha
        rw [atGate, hg]
        exact (List.mem_append.mp hu).imp_right List.mem_singleton.mp

theorem watchTurn_gate (e : Engine P) (t : Ticket) (v : Watch) : (e.watchTurn t v).gate = e.gate := by
  rcases e.watchTurn_cases t v with ⟨x,hx⟩ | ⟨v',hx,_⟩ <;> rw [hx] <;> rfl

theorem watchFrom_gate (e : Engine P) (t : Ticket) (id : DocumentId) (atLeast : Option Version)
    (timeout : Nat) (token : Option Token) (goal : Goal) :
    (e.watchFrom t id atLeast timeout token goal).gate = e.gate := by
  rcases e.watchFrom_cases t id atLeast timeout token goal with ⟨x,hx⟩ | ⟨v,hx,_⟩ <;> rw [hx] <;> rfl

theorem callTurn_gate (e : Engine P) (t : Ticket) (c : Call) : (e.callTurn t c).gate = e.gate := by
  rcases e.callTurn_cases t c with ⟨x,hx⟩ | ⟨e₁,_,_,_,_,_,hn,hx,_⟩ <;> rw [hx]
  · rfl
  · rw [watchFrom_gate]
    cases hn with
    | nothing => rfl
    | opened hn => exact noteOpened_gate hn
    | changed hn => exact noteChanged_gate hn

theorem shutdownTurn_gate (e : Engine P) (t : Ticket) (begun : Bool) :
    (e.shutdownTurn t begun).gate = e.gate := by
  have hs : (e.stop.wakeAll e.stop.watches).shutQueue.gate = e.gate := by
    have hshut : ∀ e' : Engine P, e'.shutQueue.gate = e'.gate := fun e' => wakeAll_gate _ _
    rw [hshut, wakeAll_gate, stop, wakeAll_gate]
  cases begun with
  | true => rfl
  | false =>
    simp only [shutdownTurn]
    generalize (e.stop.wakeAll e.stop.watches).shutQueue = e' at hs ⊢
    split
    · rfl
    · split <;> exact hs

theorem turn_gate (w : Worker P) (hst : e.Staffed) (t : Ticket) (hu : u ∈ (e.turn w t).atGate) :
    u ∈ e.atGate ∨ u = t ∧ ∃ s c, e.activity? t = some (.analysis 0 s c) := by
  cases ha : e.activity? t with
  | none => exact Or.inl (turn_of_none w ha ▸ hu)
  | some a =>
    simp only [turn, ha] at hu
    by_cases ht : t = 0
    · subst ht
      obtain ⟨stage,rfl⟩ := hst.first a ha
      exact Or.inl (atGate_congr (loopTurn_gate w e 0 stage) ▸ hu)
    rcases hst.others t a ht ha with hc | ⟨s,c,rfl,_⟩
    · left
      cases a with
      | call c => exact atGate_congr (e.callTurn_gate t c) ▸ hu
      | watch v => exact atGate_congr (e.watchTurn_gate t v) ▸ hu
      | shutdown begun => exact atGate_congr (e.shutdownTurn_gate t begun) ▸ hu
      | _ => simp [Activity.isCaller] at hc
    · exact (e.analysisTurn_gate w t 0 s c hu).imp_right fun hut => ⟨hut, s, c, rfl⟩

theorem release_gate (e : Engine P) (permits : Nat) (hu : u ∈ (e.release permits).atGate) : u ∈ e.atGate := by
  unfold release at hu
  split at hu
  · exact hu
  · rename_i g hg
    rw [atGate, wakeAll_gate] at hu
    rw [atGate, hg]
    exact List.mem_of_mem_drop hu

end Engine

end LiveAnalysis
