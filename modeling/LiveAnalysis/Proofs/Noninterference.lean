import LiveAnalysis.Proofs.Observers

namespace LiveAnalysis

variable {P : Type}

namespace Engine

variable {w : Worker P} {e : Engine P}

theorem Orderly.tickets_after (w : Worker P) (ho : e.Orderly) (moves : List Move) :
    e.tickets ≤ (e.after w moves).tickets := by
  induction moves generalizing e with
  | nil => exact Nat.le_refl _
  | cons m moves ih => exact Nat.le_trans (moved w ho m).tickets (ih (ho.move w m))

theorem wait?_tickets (w : Worker P) {m : Move} {t : Ticket} {token : Option Token}
    (h : e.wait? m = some (t,token)) : t = e.tickets ∧ (e.move w m).tickets = e.tickets + 1 := by
  unfold wait? at h
  split at h
  · cases h
    exact ⟨rfl,rfl⟩
  · simp at h

theorem Orderly.waits_numbered (ho : e.Orderly) {moves : List Move} {t : Ticket} {token : Option Token}
    (h : (t,token) ∈ e.record w wait? moves) : e.tickets ≤ t ∧ t < (e.after w moves).tickets := by
  induction moves generalizing e with
  | nil => simp [record] at h
  | cons m moves ih =>
    rw [record, List.mem_append, Option.mem_toList] at h
    rcases h with h | h
    · obtain ⟨rfl,hn⟩ := wait?_tickets w h
      have hle := (ho.move w m).tickets_after w moves
      exact ⟨Nat.le_refl _, Nat.lt_of_lt_of_le (hn ▸ Nat.lt_succ_self _) hle⟩
    · obtain ⟨hle,hlt⟩ := ih (ho.move w m) h
      exact ⟨Nat.le_trans (moved w ho m).tickets hle, hlt⟩

end Engine

namespace Service

open Engine

section Runs

variable (analyzer : Analyzer P) (config : Config) (gate : Option Gate)

def waits (moves : List Move) : List (Ticket × Option Token) :=
  (reached analyzer config gate []).record ⟨analyzer, config.updates⟩ Engine.wait? (moves.map Move.engine)

def exchanges (moves : List Move) : List (Request × Reply) :=
  (reached analyzer config gate []).record ⟨analyzer, config.updates⟩
    (Engine.exchange? ⟨analyzer, config.updates⟩) (moves.map Move.engine)

/-- A run without some of its calls and cancellations, and without the turns of those calls. -/
def without (o : Omission) (moves : List Move) : List Move :=
  (reached analyzer config gate []).record ⟨analyzer, config.updates⟩ o.move? (moves.map Move.engine)

theorem recorded_concat {α : Type} (f : Engine P → Engine.Move → Option α) (moves : List Move) (m : Move) :
    (reached analyzer config gate []).record ⟨analyzer, config.updates⟩ f ((moves ++ [m]).map Move.engine) =
      (reached analyzer config gate []).record ⟨analyzer, config.updates⟩ f (moves.map Move.engine) ++
        (f (reached analyzer config gate moves) m.engine).toList := by
  rw [List.map_append, reached_eq analyzer config gate moves]
  exact Engine.record_concat _ _ _ _ _

theorem reached_append (moves more : List Move) : reached analyzer config gate (moves ++ more) =
    (reached analyzer config gate moves).after ⟨analyzer, config.updates⟩ (more.map Move.engine) := by
  rw [reached_eq, List.map_append, Engine.after_append, ← reached_eq]

def Fits (o : Omission) (moves : List Move) : Prop :=
  ∀ first m rest, moves = first ++ m :: rest →
    o.Admits ⟨analyzer, config.updates⟩ (reached analyzer config gate first) m

variable {analyzer config gate} {o : Omission} {moves : List Move}

theorem Fits.init {m : Move} (h : Fits analyzer config gate o (moves ++ [m])) :
    Fits analyzer config gate o moves :=
  fun first m' rest hs => h first m' (rest ++ [m]) (by rw [hs]; simp)

theorem Fits.last {m : Move} (h : Fits analyzer config gate o (moves ++ [m])) :
    o.Admits ⟨analyzer, config.updates⟩ (reached analyzer config gate moves) m :=
  h moves m [] rfl

theorem steady_reached (hg : ∀ g, gate = some g → g.waiting = []) (moves : List Move) :
    (reached analyzer config gate moves).Steady :=
  ⟨orderly_reached analyzer config gate moves, staffed_reached analyzer config gate moves,
    tidy_reached analyzer config hg moves⟩

theorem spares_start (hg : ∀ g, gate = some g → g.waiting = []) (h0 : 0 ∉ o.calls) :
    o.Spares (reached analyzer config gate []) where
  worker := h0
  gone t a ha ht := by
    rw [activity?_reached_nil] at ha
    split at ha
    · rename_i h
      exact absurd (h ▸ ht) h0
    · simp at ha
  heeded t a ha _ := by
    rw [activity?_reached_nil] at ha
    split at ha
    · cases ha
      exact Omission.heeds_none
    · simp at ha
  gate t ht := by
    have hgate : (reached analyzer config gate []).gate = gate := rfl
    rw [atGate, hgate] at ht
    cases gate with
    | none => simp at ht
    | some g => simp [hg g rfl] at ht
  held := rfl

section Fitting

variable (hg : ∀ g, gate = some g → g.waiting = []) (h0 : 0 ∉ o.calls)
  (h : Fits analyzer config gate o moves)

include hg h0 h

theorem Fits.spares : o.Spares (reached analyzer config gate moves) := by
  induction moves using List.reverseRecOn with
  | nil => exact spares_start hg h0
  | append_singleton moves m ih =>
    rw [reached_concat]
    exact (ih h.init).move (steady_reached hg moves) h.last

theorem Fits.reached_without : reached analyzer config gate (without analyzer config gate o moves) =
    o.engine (reached analyzer config gate moves) := by
  induction moves using List.reverseRecOn with
  | nil =>
    have hgate : o.engine ({ gate } : Engine P) = { gate } := by
      cases gate with
      | none => rfl
      | some g =>
        have hw : o.tickets g.waiting = g.waiting := by
          rw [hg g rfl]
          rfl
        simp only [Omission.engine, Option.map_some, hw]
        rfl
    have hstart := Omission.engine_start (o := o) (e := { gate }) (by exact h0) (.loop .idle : Activity P)
    rw [hgate] at hstart
    exact congrArg (fun e : Engine P => e.emit .started) hstart.symm
  | append_singleton moves m ih =>
    rw [without, recorded_concat, reached_concat, Omission.engine_move (h.init.spares hg h0)
      (steady_reached hg moves) h.last, ← ih h.init, ← reached_append]
    rfl

theorem Fits.record_without {α : Type} {f : Engine P → Engine.Move → Option α} {k : α → Option α}
    (hf : ∀ (e : Engine P) m, o.Spares e → e.Steady → o.Admits ⟨analyzer, config.updates⟩ e m →
      ((o.move? e m.engine).bind fun m' => f (o.engine e) m'.engine) = (f e m.engine).bind k) :
    (reached analyzer config gate []).record ⟨analyzer, config.updates⟩ f
        ((without analyzer config gate o moves).map Move.engine) =
      ((reached analyzer config gate []).record ⟨analyzer, config.updates⟩ f
        (moves.map Move.engine)).filterMap k := by
  induction moves using List.reverseRecOn with
  | nil => rfl
  | append_singleton moves m ih =>
    have hk : ∀ x : Option α, x.toList.filterMap k = (x.bind k).toList := by
      intro x
      cases x with
      | none => rfl
      | some a => cases ha : k a <;> simp [ha]
    have hlast := hf _ m (h.init.spares hg h0) (steady_reached hg moves) h.last
    rw [recorded_concat analyzer config gate f, List.filterMap_append, ← ih h.init, hk, ← hlast]
    rw [without, recorded_concat, ← without]
    cases o.move? (reached analyzer config gate moves) m.engine with
    | none => simp
    | some m' => rw [Option.toList_some, recorded_concat, h.init.reached_without hg h0, Option.bind_some]

end Fitting

theorem waits_after_start {t : Ticket} {token : Option Token}
    (h : (t,token) ∈ waits analyzer config gate moves) :
    0 < t ∧ t < (reached analyzer config gate moves).tickets := by
  obtain ⟨hle,hlt⟩ := (orderly_reached analyzer config gate []).waits_numbered h
  exact ⟨hle, reached_eq analyzer config gate moves ▸ hlt⟩

theorem fits_of_waits (hheld : .ask .abandon ∉ moves)
    (hcalls : ∀ t ∈ o.calls, ∃ token, (t,token) ∈ waits analyzer config gate moves)
    (htokens : ∀ t token, (t,some token) ∈ waits analyzer config gate moves → token ∈ o.tokens →
      t ∈ o.calls) :
    Fits analyzer config gate o moves := by
  intro first m rest hmoves
  have hsplit : ∀ t token, (t,token) ∈ waits analyzer config gate moves ↔
      (t,token) ∈ waits analyzer config gate first ∨
      (reached analyzer config gate first).wait? m.engine = some (t,token) ∨
      (t,token) ∈ (reached analyzer config gate (first ++ [m])).record ⟨analyzer, config.updates⟩
        Engine.wait? (rest.map Move.engine) := by
    intro t token
    rw [hmoves, waits, List.map_append, record_append, ← reached_eq, List.map_cons, record, List.mem_append,
      List.mem_append, Option.mem_toList, reached_concat]
    rfl
  refine ⟨?_, fun hc hlt => ?_, fun token hw hc => ?_⟩
  · rintro rfl
    exact hheld (hmoves ▸ by simp)
  · obtain ⟨token,ht⟩ := hcalls _ hc
    refine ⟨token, ?_⟩
    rcases (hsplit _ _).mp ht with ht | ht | ht
    · exact absurd (waits_after_start ht).2 (Nat.lt_irrefl _)
    · exact ht
    · have hle := ((orderly_reached analyzer config gate (first ++ [m])).waits_numbered ht).1
      rw [reached_concat] at hle
      exact absurd hle (Nat.not_le_of_lt hlt)
  · intro k hk hx
    cases hk
    exact hc (htokens _ k ((hsplit _ _).mpr (Or.inr (Or.inl hw))) hx)

end Runs

theorem waits_only_observe (analyzer : Analyzer P) (config : Config) (gate : Option Gate)
    (hg : ∀ g, gate = some g → g.waiting = []) (moves : List Move) (o : Omission)
    (hheld : .ask .abandon ∉ moves)
    (hcalls : ∀ t ∈ o.calls, ∃ token, (t,token) ∈ waits analyzer config gate moves)
    (htokens : ∀ t token, (t,some token) ∈ waits analyzer config gate moves → token ∈ o.tokens →
      t ∈ o.calls) :
    let w : Worker P := ⟨analyzer, config.updates⟩
    let shorter := without analyzer config gate o moves
    let e := reached analyzer config gate moves
    let e' := reached analyzer config gate shorter
    exchanges analyzer config gate shorter = (exchanges analyzer config gate moves).filterMap o.exchange? ∧
    e'.ended = e.ended.filterMap o.relabel? ∧
    (∀ t ∉ o.calls, e'.activity? (o.rank t) = e.activity? t) ∧
    consulted analyzer config gate shorter = consulted analyzer config gate moves ∧
    stored analyzer config gate shorter = stored analyzer config gate moves ∧
    e'.store = e.store ∧ e'.events = e.events ∧ e'.stopped = e.stopped ∧
    ∀ n, ∃ k ≤ n, e'.run w k = o.engine (e.run w n) ∧
      ((e.run w n).isSettled = true → (e'.run w k).isSettled = true) := by
  intro w shorter e e'
  have h0 : 0 ∉ o.calls := by
    intro hc
    obtain ⟨token,ht⟩ := hcalls 0 hc
    exact Nat.lt_irrefl _ (waits_after_start ht).1
  have hfits := fits_of_waits hheld hcalls htokens
  have hspares := hfits.spares hg h0
  have hs : e.Steady := steady_reached hg moves
  have he : e' = o.engine e := hfits.reached_without hg h0
  refine ⟨?_, by rw [he]; rfl, ?_, ?_, ?_, by rw [he]; rfl, by rw [he]; rfl, by rw [he]; rfl, fun n => ?_⟩
  · exact hfits.record_without hg h0 fun e m h hs hm => Omission.engine_exchange? h hs hm
  · intro t ht
    rw [he]
    exact Omission.engine_activity? ht
  · have hc := hfits.record_without hg h0 (f := Engine.consulted?) (k := some) fun e m h _ _ => by
      rw [Omission.engine_consulted? h, Option.bind_fun_some]
    rwa [List.filterMap_some] at hc
  · have hc := hfits.record_without hg h0 (f := Engine.stored?) (k := some) fun e m h _ _ => by
      rw [Omission.engine_stored? h, Option.bind_fun_some]
    rwa [List.filterMap_some] at hc
  · obtain ⟨k,hk,hrun⟩ := Omission.engine_run w n hspares hs fun t ht => by
      obtain ⟨token,ht⟩ := hcalls t ht
      exact (waits_after_start ht).2
    rw [he]
    exact ⟨k, hk, hrun, fun hu => hrun ▸ Omission.engine_isSettled hu⟩

theorem waits_only_observe_cancelled :
    let analyzer : Analyzer String := fun _ text _ => .found text
    let d : DocumentId := ⟨"file:///d"⟩
    let o : Omission := ⟨[1], [7]⟩
    let moves : List Move := [.ask (.openDocument d "a"), .ask (.call (.wait d none 100 (some 7))),
      .ask (.call (.wait d none 100 none)), .turn 1, .turn 1, .ask (.cancel 7), .turn 1, .turn 0, .turn 0,
      .turn 0, .turn 0]
    let shorter := without analyzer {} none o moves
    (∀ g, (none : Option Gate) = some g → g.waiting = []) ∧ .ask .abandon ∉ moves ∧
    (∀ t ∈ o.calls, ∃ token, (t,token) ∈ waits analyzer {} none moves) ∧
    (∀ t token, (t,some token) ∈ waits analyzer {} none moves → token ∈ o.tokens → t ∈ o.calls) ∧
    shorter = [.ask (.openDocument d "a"), .ask (.call (.wait d none 100 none)), .turn 1, .turn 0, .turn 0,
      .turn 0, .turn 0] ∧
    (reached analyzer {} none moves).ended = [(1, .refused (.cancelled d)), (2, .found ⟨d,⟨0⟩,"a"⟩)] ∧
    (reached analyzer {} none shorter).ended = [(1, .found ⟨d,⟨0⟩,"a"⟩)] ∧
    consulted analyzer {} none shorter = consulted analyzer {} none moves := by
  intro analyzer d o moves shorter
  have hg : ∀ g, (none : Option Gate) = some g → g.waiting = [] := by simp
  have hheld : .ask .abandon ∉ moves := by decide
  have hwaits : waits analyzer {} none moves = [(1, some 7), (2, none)] := by decide +kernel
  have hcalls : ∀ t ∈ o.calls, ∃ token, (t,token) ∈ waits analyzer {} none moves := by
    rw [hwaits]
    simp [o]
  have htokens : ∀ t token, (t,some token) ∈ waits analyzer {} none moves → token ∈ o.tokens →
      t ∈ o.calls := by
    rw [hwaits]
    simp [o]
  have hended : (reached analyzer {} none moves).ended =
      [(1, .refused (.cancelled d)), (2, .found ⟨d,⟨0⟩,"a"⟩)] := by decide +kernel
  obtain ⟨_,hother,_,hconsulted,_⟩ := waits_only_observe analyzer {} none hg moves o hheld hcalls htokens
  rw [hended] at hother
  exact ⟨hg, hheld, hcalls, htokens, by decide +kernel, hended, hother, hconsulted⟩

end Service

end LiveAnalysis
