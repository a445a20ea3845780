import LiveAnalysis.Proofs.Reference
import LiveAnalysis.Proofs.Settling

namespace LiveAnalysis.Editor

open Source (Summary)

structure Held where
  ticket : Ticket
  number : Nat
  query : Query
  since : Nat
  watch : Watch

namespace Held

def entry (h : Held) : Ticket × Watch :=
  (h.ticket, h.watch)

def pending (h : Held) : Pending :=
  ⟨h.ticket, h.number, some h.query⟩

def waiting (h : Held) : Waiting :=
  ⟨h.number, h.query, h.since⟩

end Held

def Query.sent (q : Query) : Ending Summary → Json.Value
  | .paired finding text => q.answer finding.payload text
  | _ => .null

namespace Session

theorem conclude_held (s : Session) (h : Held) (x : Ending Summary) : ∃ warnings,
    s.conclude h.pending x =
      { s with outcomes := s.outcomes ++ [(h.number, .result (h.query.sent x))], warnings } := by
  cases x with
  | paired finding text => exact ⟨s.warnings,rfl⟩
  | outrun => exact ⟨_,rfl⟩
  | refused why =>
    cases why with
    | notOpen id => exact ⟨s.warnings,rfl⟩
    | _ => exact ⟨_,rfl⟩
  | _ => exact ⟨s.warnings,rfl⟩

theorem collect_held (s : Session) {gone : List Held} (x : Held → Ending Summary)
    (hn : (gone.map Held.ticket).Nodup)
    (hp : ∀ h ∈ gone, s.pending.find? (·.ticket = h.ticket) = some h.pending) : ∃ warnings,
    s.collect (gone.map fun h => (h.ticket, x h)) = { s with
      pending := s.pending.filter fun p => p.ticket ∉ gone.map Held.ticket
      outcomes := s.outcomes ++ gone.map fun h => (h.number, .result (h.query.sent (x h)))
      warnings } := by
  induction gone generalizing s with
  | nil => exact ⟨s.warnings, by simp [collect]⟩
  | cons h gone ih =>
    obtain ⟨hnh,hn⟩ := List.nodup_cons.mp hn
    have hfind := hp h List.mem_cons_self
    let s' : Session := { s with pending := s.pending.filter (·.ticket ≠ h.ticket) }
    obtain ⟨warnings,hcon⟩ := s'.conclude_held h (x h)
    have hothers : ∀ h' ∈ gone, s'.pending.find? (·.ticket = h'.ticket) = some h'.pending := by
      intro h' hh'
      have hne : h'.ticket ≠ h.ticket := fun he => hnh (he ▸ List.mem_map.mpr ⟨h',hh',rfl⟩)
      rw [← hp h' (List.mem_cons_of_mem _ hh'), List.find?_filter]
      congr 1
      funext p
      by_cases ht : p.ticket = h'.ticket <;> simp [ht, hne]
    obtain ⟨warnings',hrest⟩ := ih { s' with
      outcomes := s'.outcomes ++ [(h.number, .result (h.query.sent (x h)))], warnings } hn hothers
    refine ⟨warnings', ?_⟩
    simp only [List.map_cons, collect, hfind]
    change (s'.conclude h.pending (x h)).collect _ = _
    rw [hcon, hrest]
    have hdrop : ∀ p : Pending,
        (decide (p.ticket ∉ gone.map Held.ticket) && decide (p.ticket ≠ h.ticket)) =
          decide (p.ticket ∉ h.ticket :: gone.map Held.ticket) := by
      intro p
      by_cases ht : p.ticket = h.ticket <;> simp [ht]
    simp only [s', List.filter_filter, hdrop, List.append_assoc, List.singleton_append]

theorem gather_still (s : Session) {w : Worker Summary} {c : Config} {e : Engine Summary}
    (hs : s.service = some ⟨w,c,e⟩) (he : e.ended = []) : s.gather = s := by
  have hsame : ({ e with ended := [] } : Engine Summary) = e := by rw [← he]
  simp only [gather, hs, he, collect, hsame]
  rw [← hs]

theorem gather_held (s : Session) {w : Worker Summary} {c : Config} {r : Resting Summary}
    {held : List Held} {p : Held → Bool} {x : Held → Ending Summary}
    (hs : s.service = some ⟨w, c, r.roused [] ((held.filter p).map fun h => (h.ticket, x h))⟩)
    (hn : (held.map Held.ticket).Nodup) (hp : s.pending = held.map Held.pending) : ∃ warnings,
    s.gather = { s with
      service := some ⟨w,c,r.engine⟩
      pending := (held.filter fun h => !p h).map Held.pending
      outcomes := s.outcomes ++ (held.filter p).map fun h => (h.number, .result (h.query.sent (x h)))
      warnings } := by
  have hfind : ∀ h ∈ held.filter p, s.pending.find? (·.ticket = h.ticket) = some h.pending := by
    intro h hh
    have hkeys : (s.pending.map Pending.ticket).Nodup := by
      rw [hp, List.map_map]
      exact hn
    have hin : h.pending ∈ s.pending := hp ▸ List.mem_map.mpr ⟨h, List.mem_of_mem_filter hh, rfl⟩
    exact Engine.find?_of_nodup hkeys hin
  have hgone : ((held.filter p).map Held.ticket).Nodup := hn.sublist ((List.filter_sublist).map _)
  obtain ⟨warnings,hcol⟩ := ({ s with service := some ⟨w,c,r.engine⟩ } : Session).collect_held x hgone hfind
  refine ⟨warnings, ?_⟩
  have hpending : (s.pending.filter fun p' => p'.ticket ∉ (held.filter p).map Held.ticket) =
      (held.filter fun h => !p h).map Held.pending := by
    rw [hp, List.filter_map, ← filter_not_mem_map hn]
    rfl
  simp only [gather, hs]
  refine hcol.trans ?_
  rw [← hpending]

theorem accept_eq {s : Session} {service : Service Summary} (hs : s.service = some service)
    (hr : s.shutDown = false) (m : Incoming) : s.accept m = Reference.accept m := by
  simp only [accept, Reference.accept, hs, hr, Bool.false_eq_true, if_false]
  cases Message.read m.method m.params with
  | error f => rfl
  | ok message => cases message <;> rfl

def heard (s : Session) (number : Nat) (message : Message) : Session :=
  (s.hear number message).gather

def rest (s : Session) : Session :=
  ({ s with service := s.service.map Service.settle } : Session).gather

theorem take_message {s : Session} {m : Incoming} {message : Message} (hi : s.inbox = [])
    (ha : s.accept m = .ok message) (hr : s.shutDown = false) (hm : message ≠ .shutdown) :
    s.take (.message m) = (s.heard m.number message).rest := by
  have hpost : s.post m = { s with inbox := [(m.number, .ok message)] } := by
    simp only [post, ha, hi, hr, List.nil_append]
    cases message with
    | shutdown => exact absurd rfl hm
    | _ => rfl
  have hempty : ({ s with inbox := [] } : Session) = s := by rw [← hi]
  simp only [take, hpost, settle, hempty, List.foldl_cons, List.foldl_nil]
  rfl

theorem take_refused {s : Session} {m : Incoming} {f : Fault} (hi : s.inbox = [])
    (ha : s.accept m = .error f) : s.take (.message m) = (s.finish m.number (m.refusal f)).rest := by
  have hempty : ({ s with inbox := [] } : Session) = s := by rw [← hi]
  simp only [take, post, ha, hi, settle, hempty, List.nil_append, List.foldl_cons, List.foldl_nil]
  rfl

theorem tell_eq {s : Session} {service service' : Service Summary} (about : String)
    {request : Request}
    {reply : Reply} (hr : service.receive request = (service',reply)) : ∃ warnings,
    s.tell service about request = { s with service := some service', warnings } := by
  simp only [tell, hr]
  cases reply with
  | refused why => exact ⟨_,rfl⟩
  | _ => exact ⟨s.warnings,rfl⟩

def told (s : Session) (service : Option (Service Summary)) (o : Nat × Outcome)
    (warnings : List String) : Session :=
  { s with service, outcomes := s.outcomes ++ [o], warnings }

theorem heard_told {s : Session} {w : Worker Summary} {c : Config} {e e' : Engine Summary} (number : Nat)
    (about : String) {request : Request} {reply : Reply}
    (hr : (⟨w,c,e⟩ : Service Summary).receive request = (⟨w,c,e'⟩,reply)) (he : e'.ended = []) :
    ∃ warnings, ((s.tell ⟨w,c,e⟩ about request).finish number .heard).gather =
      s.told (some ⟨w,c,e'⟩) (number,.heard) warnings := by
  obtain ⟨warnings,htell⟩ := s.tell_eq about hr
  refine ⟨warnings, ?_⟩
  rw [htell]
  exact gather_still _ rfl he

end Session

theorem Reference.serve_eq {late : Nat → Nat → Bool} {r : Reference} {held : List Held} {p : Held → Bool}
    {x : Held → Ending Summary} (hw : r.waiting = held.map Held.waiting)
    (hends : ∀ h ∈ held, p h = true → r.result? late h.waiting = some (h.query.sent (x h)))
    (hwaits : ∀ h ∈ held, p h = false → r.result? late h.waiting = none) :
    r.serve late = { r with
      waiting := (held.filter fun h => !p h).map Held.waiting
      outcomes := r.outcomes ++ (held.filter p).map fun h => (h.number, .result (h.query.sent (x h))) } := by
  have hkept : ∀ h ∈ held, (r.result? late h.waiting).isNone = !p h := by
    intro h hh
    cases hp : p h with
    | true => rw [hends h hh hp]; rfl
    | false => rw [hwaits h hh hp]; rfl
  have hwaiting : (r.waiting.filter fun w => (r.result? late w).isNone) =
      (held.filter fun h => !p h).map Held.waiting := by
    rw [hw, List.filter_map]
    exact congrArg _ (List.filter_congr hkept)
  have houtcomes : ∀ gone : List Held, (∀ h ∈ gone, h ∈ held) →
      ((gone.map Held.waiting).filterMap fun w =>
        (r.result? late w).map fun v => (w.number, Outcome.result v)) =
        (gone.filter p).map fun h => (h.number, .result (h.query.sent (x h))) := by
    intro gone hgone
    induction gone with
    | nil => rfl
    | cons h gone ih =>
      have hh := hgone h List.mem_cons_self
      have hrest := ih fun h' hh' => hgone h' (List.mem_cons_of_mem _ hh')
      cases hp : p h with
      | true =>
        simp only [List.map_cons, List.filterMap_cons, hends h hh hp, Option.map_some, hrest,
          List.filter_cons_of_pos hp]
        rfl
      | false =>
        simp only [List.map_cons, List.filterMap_cons, hwaits h hh hp, Option.map_none, hrest,
          List.filter_cons, hp, Bool.false_eq_true, if_false]
  rw [serve, hwaiting, hw, houtcomes held fun _ hh => hh]

/-! The session and the reference show the same documents at the same time. -/

structure Current (l : Lifetime Summary) : Prop where
  found : ∀ summary, Source.summarize l.text = .ok summary →
    l.slot.latest = some ⟨l.id, l.version, summary⟩
  behind : ∀ fault, Source.summarize l.text = .error fault →
    ∀ f, l.slot.latest = some f → f.version < l.version

theorem Current.le {l : Lifetime Summary} (h : Current l) (f : Finding Summary)
    (hf : l.slot.latest = some f) : f.version ≤ l.version := by
  cases hsum : Source.summarize l.text with
  | ok summary =>
    obtain rfl := Option.some.inj (hf.symm.trans (h.found summary hsum))
    exact Version.le_refl _
  | error fault => exact Nat.le_of_lt (h.behind fault hsum f hf)

structure Shows (r : Resting Summary) (ref : Reference) : Prop where
  texts : ∀ id, ref.texts id = (r.store.find? id).map (·.text)
  clock : r.clock = min ref.clock Engine.lastMoment
  current : ∀ id l, r.store.find? id = some l → Current l

theorem Shows.setText {r : Resting Summary} {ref : Reference} (h : Shows r ref) {store : Store Summary}
    {id : DocumentId} {l : Option (Lifetime Summary)}
    (hl : ∀ id', store.find? id' = if id' = id then l else r.store.find? id') (id' : DocumentId) :
    (ref.setText id (l.map (·.text))).texts id' = (store.find? id').map (·.text) := by
  simp only [hl, Reference.setText, Function.update_apply, h.texts]
  by_cases hid : id' = id <;> simp [hid]

structure Awaits (timeout : Nat) (r : Resting Summary) (h : Held) : Prop where
  id : h.watch.id = h.query.id
  lifetime : ∃ l, r.store.find? h.query.id = some l ∧ l.generation = h.watch.generation ∧
    h.watch.atLeast ≤ l.version ∧ ∀ f, l.slot.latest = some f → f.version < h.watch.atLeast
  deadline : h.watch.deadline =
    min (min h.since Engine.lastMoment + min timeout Engine.longestWait) Engine.lastMoment
  patient : r.clock < h.watch.deadline
  goal : ∃ text n, h.watch.goal = .paired text n

theorem Awaits.unanswered {timeout : Nat} {r : Resting Summary} {h : Held} {ref : Reference}
    (ha : Awaits timeout r h) (hs : Shows r ref) : ref.answer? h.query = none := by
  obtain ⟨l,hl,_,hv,hf⟩ := ha.lifetime
  simp only [Reference.answer?, hs.texts, hl, Option.map_some]
  cases hsum : Source.summarize l.text with
  | ok summary =>
    have hlt := hf _ ((hs.current _ l hl).found summary hsum)
    exact absurd hv (Version.not_le_of_lt hlt)
  | error fault => rfl

theorem Awaits.waits {timeout : Nat} {r : Resting Summary} {h : Held} {ref : Reference}
    (ha : Awaits timeout r h) (hs : Shows r ref) : ref.result? (overdue timeout) h.waiting = none := by
  have hlate : overdue timeout h.since ref.clock = false := by
    rw [overdue, ← ha.deadline, ← hs.clock]
    exact decide_eq_false (Nat.not_le_of_lt ha.patient)
  simp [Reference.result?, Held.waiting, ha.unanswered hs, hlate]

theorem Awaits.moved {timeout : Nat} {r r' : Resting Summary} {h : Held} (ha : Awaits timeout r h)
    (hl : r'.store.find? h.query.id = r.store.find? h.query.id) (hc : r'.clock = r.clock) :
    Awaits timeout r' h :=
  ⟨ha.id, hl ▸ ha.lifetime, ha.deadline, hc ▸ ha.patient, ha.goal⟩

structure Tracks (timeout : Nat) (earlier : List (Nat × Outcome)) (held : List Held) (s : Session)
    (ref : Reference) : Prop where
  pending : s.pending = held.map Held.pending
  waiting : ref.waiting = held.map Held.waiting
  since : ∀ h ∈ held, h.since ≤ ref.clock
  outcomes : s.outcomes = earlier ++ ref.outcomes
  inbox : s.inbox = []
  running : s.shutDown = false
  limit : s.config.timeout = timeout

structure Mirrors (timeout : Nat) (earlier : List (Nat × Outcome)) (r : Resting Summary)
    (held : List Held) (s : Session) (ref : Reference) : Prop extends
    Tracks timeout earlier held s ref where
  service : ∃ updates config, s.service = some ⟨⟨summarizer,updates⟩, config, r.engine⟩
  sound : r.Sound
  watches : r.watches = held.map Held.entry
  awaits : ∀ h ∈ held, Awaits timeout r h
  shows : Shows r ref

structure Ends (timeout : Nat) (earlier : List (Nat × Outcome)) (r : Resting Summary) (held : List Held)
    (p : Held → Bool) (x : Held → Ending Summary) (s : Session) (ref : Reference) : Prop extends
    Tracks timeout earlier held s ref where
  sound : r.Sound
  watches : r.watches = (held.filter fun h => !p h).map Held.entry
  distinct : (held.map Held.ticket).Nodup
  stays : ∀ h ∈ held, p h = false → Awaits timeout r h
  ends : ∀ h ∈ held, p h = true →
    ref.result? (overdue timeout) h.waiting = some (h.query.sent (x h))
  shows : Shows r ref

section

variable {timeout : Nat} {earlier : List (Nat × Outcome)} {r : Resting Summary} {held : List Held}
  {p : Held → Bool} {x : Held → Ending Summary} {s : Session} {ref : Reference} {updates : Bool}
  {config : Config}

theorem Tracks.told (h : Tracks timeout earlier held s ref) (o : Nat × Outcome)
    (service : Option (Service Summary)) (warnings : List String)
    (texts : DocumentId → Option String) :
    Tracks timeout earlier held (s.told service o warnings)
      { ref with texts, outcomes := ref.outcomes ++ [o] } where
  pending := h.pending
  waiting := h.waiting
  since := h.since
  outcomes := by rw [Session.told, h.outcomes, List.append_assoc]
  inbox := h.inbox
  running := h.running
  limit := h.limit

theorem Ends.gather (h : Ends timeout earlier r held p x s ref)
    (hs : s.service = some ⟨⟨summarizer,updates⟩, config,
      r.roused [] ((held.filter p).map fun h => (h.ticket, x h))⟩) :
    Mirrors timeout earlier r (held.filter fun h => !p h) s.gather (ref.serve (overdue timeout)) := by
  obtain ⟨warnings,hgather⟩ := s.gather_held hs h.distinct h.pending
  rw [hgather, Reference.serve_eq h.waiting h.ends fun k hk hp => (h.stays k hk hp).waits h.shows]
  refine { service := ⟨updates,config,rfl⟩, sound := h.sound, watches := h.watches, pending := rfl,
           waiting := rfl, awaits := ?_, since := ?_, outcomes := ?_, inbox := h.inbox,
           shows := ⟨h.shows.texts,h.shows.clock,h.shows.current⟩,
           running := h.running, limit := h.limit }
  · exact fun k hk => h.since k (List.mem_of_mem_filter hk)
  · rw [h.outcomes, List.append_assoc]
  · intro k hk
    obtain ⟨hm,hp⟩ := List.mem_filter.mp hk
    exact h.stays k hm (by simpa using hp)

theorem Ends.rest (h : Ends timeout earlier r held p x s ref) {e : Engine Summary}
    (hs : s.service = some ⟨⟨summarizer,updates⟩, config, e⟩)
    (he : e.settle ⟨summarizer,updates⟩ =
      r.roused [] ((held.filter p).map fun h => (h.ticket, x h))) :
    Mirrors timeout earlier r (held.filter fun h => !p h) s.rest (ref.serve (overdue timeout)) := by
  have hends : Ends timeout earlier r held p x
      ({ s with service := s.service.map Service.settle } : Session) ref := { h with }
  have hservice : s.service.map Service.settle = some ⟨⟨summarizer,updates⟩, config,
      r.roused [] ((held.filter p).map fun h => (h.ticket, x h))⟩ := by
    rw [hs, Option.map_some, Service.settle, he]
  exact hends.gather hservice

theorem distinct_held (hr : r.Sound) (hw : r.watches = held.map Held.entry) :
    (held.map Held.ticket).Nodup := by
  have hn := hr.nodup
  rwa [hw, List.map_map] at hn

theorem Mirrors.serve (h : Mirrors timeout earlier r held s ref) : ref.serve (overdue timeout) = ref := by
  have hnone := Reference.serve_eq (p := fun _ => false) (x := fun _ => .down) h.waiting
    (fun _ _ hp => absurd hp (by simp)) fun k hk _ => (h.awaits k hk).waits h.shows
  simpa [← h.waiting] using hnone

theorem Tracks.rest (h : Tracks timeout earlier held s ref) {e : Engine Summary} (hr : r.Sound)
    (hw : r.watches = held.map Held.entry) (ha : ∀ k ∈ held, Awaits timeout r k) (hshows : Shows r ref)
    (hs : s.service = some ⟨⟨summarizer,updates⟩, config, e⟩)
    (he : e.settle ⟨summarizer,updates⟩ = r.engine) : Mirrors timeout earlier r held s.rest ref := by
  have hgather : s.rest = { s with service := some ⟨⟨summarizer,updates⟩, config, r.engine⟩ } := by
    have hsettle : s.service.map Service.settle = some ⟨⟨summarizer,updates⟩, config, r.engine⟩ := by
      rw [hs, Option.map_some, Service.settle, he]
    rw [Session.rest, hsettle]
    exact Session.gather_still _ rfl rfl
  rw [hgather]
  exact { h with service := ⟨updates,config,rfl⟩, sound := hr, watches := hw, awaits := ha,
                 shows := hshows }

theorem Mirrors.rest (h : Mirrors timeout earlier r held s ref) :
    Mirrors timeout earlier r held s.rest ref := by
  obtain ⟨updates,config,hs⟩ := h.service
  exact h.toTracks.rest h.sound h.watches h.awaits h.shows hs
    (Engine.run_settled _ (r.roused_settled []) _)

end

end LiveAnalysis.Editor
