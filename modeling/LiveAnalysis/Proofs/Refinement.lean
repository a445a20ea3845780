import LiveAnalysis.Proofs.Mirror

/-!
Step by step, a session shows what the reference shows: the same documents, the same queries that wait, and
the same outcomes in the same order.
-/

namespace LiveAnalysis

namespace Service

variable {P : Type} (s : Service P) {e : Engine P} {id : DocumentId}

theorem receive_opened {text : String} (h : s.engine.noteOpened id text = .ok e) :
    s.receive (.openDocument id text) = ({ s with engine := e }, .version .baseline) := by
  simp only [receive, h]

theorem receive_changed {text : String} {version : Version}
    (h : s.engine.noteChanged id text = .ok (e,version)) :
    s.receive (.change id text) = ({ s with engine := e }, .version version) := by
  simp only [receive, h]

theorem receive_closed (h : s.engine.noteClosed id = .ok e) :
    s.receive (.close id) = ({ s with engine := e }, .done) := by
  simp only [receive, h]

end Service

namespace Editor

open Source (Summary)

section

variable {timeout : Nat} {earlier : List (Nat × Outcome)} {r : Resting Summary} {held : List Held}
  {s : Session} {ref : Reference} {updates : Bool} {config : Config}

theorem Mirrors.told (h : Mirrors timeout earlier r held s ref) (number : Nat) (outcome : Outcome)
    (warnings : List String) :
    Mirrors timeout earlier r held (s.told s.service (number,outcome) warnings)
      (ref.finish number outcome) where
  toTracks := h.toTracks.told _ s.service warnings ref.texts
  service := h.service
  sound := h.sound
  watches := h.watches
  awaits := h.awaits
  shows := ⟨h.shows.texts,h.shows.clock,h.shows.current⟩

theorem Mirrors.same (h : Mirrors timeout earlier r held s ref) (number : Nat) (outcome : Outcome)
    (warnings : List String) :
    Mirrors timeout earlier r held (s.told s.service (number,outcome) warnings).rest
      ((ref.finish number outcome).serve (overdue timeout)) := by
  have htold := h.told number outcome warnings
  rw [htold.serve]
  exact htold.rest

theorem Awaits.generation_eq (ha : Awaits timeout r h) (hr : r.Sound) {id : DocumentId}
    {l : Lifetime Summary} (hl : r.store.find? id = some l) :
    h.watch.generation = l.generation ↔ h.query.id = id := by
  obtain ⟨k,hk,hg,_⟩ := ha.lifetime
  constructor
  · intro he
    have hkl := hr.valid.eq_of_generation (Store.find?_spec hk).1 (Store.find?_spec hl).1 (hg.trans he)
    exact (Store.find?_spec hk).2.1.symm.trans (hkl ▸ (Store.find?_spec hl).2.1)
  · rintro rfl
    rw [← hg, Option.some.inj (hk.symm.trans hl)]

theorem onlookers_held {id : DocumentId} {l : Lifetime Summary} (hr : r.Sound)
    (hw : r.watches = held.map Held.entry) (ha : ∀ h ∈ held, Awaits timeout r h)
    (hl : r.store.find? id = some l) :
    r.onlookers l.generation = (held.filter fun h => h.query.id = id).map Held.entry := by
  have hsame : ∀ h ∈ held, decide (h.watch.generation = l.generation) = decide (h.query.id = id) :=
    fun h hh => decide_eq_decide.mpr ((ha h hh).generation_eq hr hl)
  rw [Resting.onlookers, hw, List.filter_map, ← List.filter_congr hsame]
  rfl

theorem others_held {id : DocumentId} {l : Lifetime Summary} (hr : r.Sound)
    (hw : r.watches = held.map Held.entry) (ha : ∀ h ∈ held, Awaits timeout r h)
    (hl : r.store.find? id = some l) :
    (r.watches.filter fun p => !decide (p.2.generation = l.generation)) =
      (held.filter fun h => !decide (h.query.id = id)).map Held.entry := by
  have hsame : ∀ h ∈ held, (!decide (h.watch.generation = l.generation)) = !decide (h.query.id = id) :=
    fun h hh => congrArg _ (decide_eq_decide.mpr ((ha h hh).generation_eq hr hl))
  rw [hw, List.filter_map, ← List.filter_congr hsame]
  rfl

structure Renewed (timeout : Nat) (earlier : List (Nat × Outcome)) (r : Resting Summary)
    (held : List Held) (s : Session) (ref : Reference) (id : DocumentId) (l : Lifetime Summary) : Prop
    extends Tracks timeout earlier held s ref where
  service : ∃ updates config, s.service = some ⟨⟨summarizer,updates⟩, config, r.rung id⟩
  sound : r.Sound
  watches : r.watches = held.map Held.entry
  awaits : ∀ h ∈ held, Awaits timeout r h
  lifetime : r.store.find? id = some l
  newer : ∀ h ∈ held, h.query.id = id → h.watch.atLeast < l.version
  unpublished : ∀ f, l.slot.latest = some f → f.version < l.version
  texts : ∀ id, ref.texts id = (r.store.find? id).map (·.text)
  clock : r.clock = min ref.clock Engine.lastMoment
  current : ∀ id' k, id' ≠ id → r.store.find? id' = some k → Current k

section Renewed

variable {id : DocumentId} {l : Lifetime Summary} (h : Renewed timeout earlier r held s ref id l)

include h

theorem Renewed.failed {fault : Source.SyntaxFault} (hsum : Source.summarize l.text = .error fault) :
    ∃ r', Mirrors timeout earlier r' held s.rest ref := by
  obtain ⟨updates,config,hs⟩ := h.service
  have hfail : ∀ payload, summarizer (r.calls + 1) l.text l.version ≠ .found payload := by
    simp [summarizer, hsum]
  obtain ⟨events,hset⟩ := h.sound.settle_failed ⟨summarizer,updates⟩ h.lifetime hfail
  let r' : Resting Summary := { r with calls := r.calls + 1, tickets := r.tickets + 1, events }
  have hshows : Shows r' ref := by
    refine ⟨h.texts, h.clock, fun id' k hk => ?_⟩
    by_cases hid : id' = id
    · obtain rfl := Option.some.inj ((hid ▸ hk).symm.trans h.lifetime)
      exact ⟨fun _ hok => by simp [hsum] at hok, fun _ _ => h.unpublished⟩
    · exact h.current id' k hid hk
  have hsound : r'.Sound := h.sound.counted.of_store h.sound.valid events
  exact ⟨r', h.toTracks.rest hsound h.watches (fun k hk => (h.awaits k hk).moved rfl rfl) hshows hs hset⟩

theorem Renewed.behind (f : Finding Summary) (hf : l.slot.latest = some f) : f.version ≤ l.version :=
  Nat.le_of_lt (h.unpublished f hf)

theorem Renewed.ends_found {summary : Summary} (hsum : Source.summarize l.text = .ok summary)
    (events : List Event) :
    Ends timeout earlier { r with
        store := (r.store.publish l.snapshot summary).1
        calls := r.calls + 1
        tickets := r.tickets + 1
        watches := r.watches.filter fun p => !decide (p.2.generation = l.generation)
        events }
      held (fun k => k.query.id = id) (fun _ => .paired ⟨l.id,l.version,summary⟩ l.text) s ref := by
  have hfinds := h.sound.valid.find?_published h.lifetime h.behind summary
  refine { h.toTracks with
           sound := (h.sound.counted.of_store (h.sound.valid.published _ _) events).filter _,
           watches := others_held h.sound h.watches h.awaits h.lifetime,
           distinct := distinct_held h.sound h.watches, stays := ?_, ends := ?_,
           shows := ⟨fun id' => ?_, h.clock, fun id' k hk => ?_⟩ }
  · intro k hk hid
    exact (h.awaits k hk).moved ((hfinds _).trans (if_neg (of_decide_eq_false hid))) rfl
  · intro k hk hid
    have htext : ref.texts k.query.id = some l.text := by
      rw [h.texts, of_decide_eq_true hid, h.lifetime]
      rfl
    simp [Reference.result?, Reference.answer?, Held.waiting, htext, hsum, Query.sent]
  · rw [h.texts, hfinds]
    by_cases hid : id' = id <;> simp [hid, h.lifetime]
  · rw [hfinds] at hk
    by_cases hid : id' = id
    · rw [if_pos hid] at hk
      obtain rfl := Option.some.inj hk
      exact ⟨fun _ hok => by rw [Except.ok.inj (hsum.symm.trans hok)],
        fun _ herror => by simp [hsum] at herror⟩
    · rw [if_neg hid] at hk
      exact h.current id' k hid hk

theorem Renewed.found {summary : Summary} (hsum : Source.summarize l.text = .ok summary) :
    ∃ r', Mirrors timeout earlier r' (held.filter fun k => !decide (k.query.id = id)) s.rest
      (ref.serve (overdue timeout)) := by
  obtain ⟨updates,config,hs⟩ := h.service
  have hfound : summarizer (r.calls + 1) l.text l.version = .found summary := by
    simp [summarizer, hsum]
  have honlookers := onlookers_held h.sound h.watches h.awaits h.lifetime
  -- Each waits for a version that had no finding, so the one that is new now is later than that.
  have hready : ∀ q ∈ r.onlookers l.generation, q.2.id = id ∧ q.2.atLeast < l.version ∧
      ∃ text n, q.2.goal = .paired text n := by
    rw [honlookers]
    intro q hq
    obtain ⟨k,hk,rfl⟩ := List.mem_map.mp hq
    obtain ⟨hk,hid⟩ := List.mem_filter.mp hk
    have hid := of_decide_eq_true hid
    exact ⟨(h.awaits k hk).id.trans hid, h.newer k hk hid, (h.awaits k hk).goal⟩
  obtain ⟨events,hset⟩ := h.sound.settle_found ⟨summarizer,updates⟩ h.lifetime hfound h.behind hready
  refine ⟨_, (h.ends_found hsum events).rest hs (hset.trans ?_)⟩
  rw [honlookers, List.map_map]
  rfl

theorem Renewed.rest :
    ∃ r' held', Mirrors timeout earlier r' held' s.rest (ref.serve (overdue timeout)) := by
  cases hsum : Source.summarize l.text with
  | error fault =>
    obtain ⟨r',hm⟩ := h.failed hsum
    exact ⟨r', held, hm.serve.symm ▸ hm⟩
  | ok summary =>
    obtain ⟨r',hm⟩ := h.found hsum
    exact ⟨r', _, hm⟩

end Renewed

theorem Mirrors.refused (h : Mirrors timeout earlier r held s ref) (number : Nat) {about : String}
    {request : Request} (why : DocumentId → Refusal) (id : DocumentId)
    (hs : s.service = some ⟨⟨summarizer,updates⟩,config,r.engine⟩)
    (hr : (⟨⟨summarizer,updates⟩,config,r.engine⟩ : Service Summary).receive request =
      (⟨⟨summarizer,updates⟩,config,r.engine⟩, .refused (why id))) :
    Mirrors timeout earlier r held
      ((s.tell ⟨⟨summarizer,updates⟩,config,r.engine⟩ about request).finish number .heard).gather.rest
      ((ref.finish number .heard).serve (overdue timeout)) := by
  obtain ⟨warnings,heard⟩ := Session.heard_told (s := s) number about hr rfl
  rw [heard, ← hs]
  exact h.same number .heard warnings

theorem Mirrors.renewed (h : Mirrors timeout earlier r held s ref) (number : Nat) {id : DocumentId}
    {l : Lifetime Summary} {store : Store Summary} (hv : store.Valid)
    (hl : ∀ id', store.find? id' = if id' = id then some l else r.store.find? id')
    (hold : ∀ k, r.store.find? id = some k →
      k.generation = l.generation ∧ k.version < l.version ∧ k.slot = l.slot)
    (hf : ∀ f, l.slot.latest = some f → f.version < l.version) (updates : Bool) (config : Config)
    (warnings : List String) (events : List Event) :
    Renewed timeout earlier { r with store, events } held
      (s.told (some ⟨⟨summarizer,updates⟩, config, ({ r with store, events } : Resting Summary).rung id⟩)
        (number,.heard) warnings)
      ((ref.setText id (some l.text)).finish number .heard) id l where
  toTracks := h.toTracks.told (number,.heard) _ warnings _
  service := ⟨updates,config,rfl⟩
  sound := h.sound.of_store hv events
  watches := h.watches
  awaits k hk := by
    have ha := h.awaits k hk
    by_cases hid : k.query.id = id
    · obtain ⟨k',hk',hg,hat,hlt⟩ := ha.lifetime
      obtain ⟨hg',hv',hslot⟩ := hold k' (hid ▸ hk')
      exact { ha with lifetime := ⟨l, (hl _).trans (if_pos hid), hg'.symm.trans hg,
        Version.le_trans hat (Nat.le_of_lt hv'), hslot ▸ hlt⟩ }
    · exact ha.moved ((hl _).trans (if_neg hid)) rfl
  lifetime := (hl id).trans (if_pos rfl)
  newer k hk hid := by
    obtain ⟨k',hk',_,hat,_⟩ := (h.awaits k hk).lifetime
    exact Nat.lt_of_le_of_lt hat (hold k' (hid ▸ hk')).2.1
  unpublished := hf
  texts := h.shows.setText hl
  clock := h.shows.clock
  current id' k hid hk := by
    have hother := (hl id').trans (if_neg hid)
    rw [show ({ r with store, events } : Resting Summary).store.find? id' = _ from hother] at hk
    exact h.shows.current id' k hk

theorem Mirrors.opened (h : Mirrors timeout earlier r held s ref) (number : Nat) (id : DocumentId)
    (text : String) : ∃ r' held', Mirrors timeout earlier r' held'
      (s.heard number (.opened id text)).rest
      ((ref.hear number (.opened id text)).serve (overdue timeout)) := by
  obtain ⟨updates,config,hs⟩ := h.service
  let service : Service Summary := ⟨⟨summarizer,updates⟩,config,r.engine⟩
  have hhear : s.hear number (.opened id text) =
      (s.tell service "didOpen" (.openDocument id text)).finish number .heard := by
    simp only [Session.hear, hs, service]
  rw [Session.heard, hhear]
  cases hfind : r.store.find? id with
  | some l =>
    have href : ref.hear number (.opened id text) = ref.finish number .heard := by
      simp [Reference.hear, h.shows.texts, hfind]
    rw [href]
    refine ⟨r, held, h.refused number .alreadyOpen id hs ?_⟩
    simp only [Service.receive, r.noteOpened_again hfind]
  | none =>
    let l : Lifetime Summary := { id, generation := r.store.lifetimes.length + 1, text }
    have hopen : r.store.openDocument id text = .ok ⟨l :: r.store.lifetimes⟩ :=
      Store.openDocument_ok.mpr ⟨hfind,rfl⟩
    have hvalid := (Store.openDocument_change (p := fun _ _ => True) hopen).valid h.sound.valid
    obtain ⟨events,hnote⟩ := r.noteOpened_resting hopen
    have hreceive := service.receive_opened hnote
    obtain ⟨warnings,heard⟩ := Session.heard_told (s := s) number "didOpen" hreceive rfl
    have href : ref.hear number (.opened id text) =
        (ref.setText id (some text)).finish number .heard := by
      simp [Reference.hear, h.shows.texts, hfind]
    rw [heard, href]
    have hnone : ∀ f, l.slot.latest = some f → f.version < l.version := by simp [l]
    exact (h.renewed number hvalid (fun id' => r.store.find?_opened id' l rfl)
      (fun k hk => absurd (hfind.symm.trans hk) (by simp)) hnone updates config warnings events).rest

theorem Mirrors.changed (h : Mirrors timeout earlier r held s ref) (number : Nat) (id : DocumentId)
    (texts : List String) : ∃ r' held', Mirrors timeout earlier r' held'
      (s.heard number (.changed id texts)).rest
      ((ref.hear number (.changed id texts)).serve (overdue timeout)) := by
  obtain ⟨updates,config,hs⟩ := h.service
  let service : Service Summary := ⟨⟨summarizer,updates⟩,config,r.engine⟩
  cases hlast : texts.getLast? with
  | none =>
    have hhear : s.heard number (.changed id texts) = s.finish number .heard := by
      simp only [Session.heard, Session.hear, hs, hlast]
      exact Session.gather_still _ hs rfl
    have href : ref.hear number (.changed id texts) = ref.finish number .heard := by
      simp only [Reference.hear, hlast]
    rw [hhear, href]
    exact ⟨r, held, h.same number .heard s.warnings⟩
  | some text =>
    have hhear : s.hear number (.changed id texts) =
        (s.tell service "didChange" (.change id text)).finish number .heard := by
      simp only [Session.hear, hs, hlast, service]
    rw [Session.heard, hhear]
    cases hfind : r.store.find? id with
    | none =>
      have href : ref.hear number (.changed id texts) = ref.finish number .heard := by
        simp [Reference.hear, hlast, h.shows.texts, hfind]
      rw [href]
      refine ⟨r, held, h.refused number .notOpen id hs ?_⟩
      simp only [Service.receive, r.noteChanged_unknown hfind]
    | some k =>
      let l : Lifetime Summary := { k with text, version := k.version.next }
      have hchange : r.store.change id text = .ok _ := Store.change_ok.mpr ⟨k, hfind, rfl, rfl⟩
      have hvalid := (Store.change_change (p := fun _ _ => True) hchange).valid h.sound.valid
      have hreceive := service.receive_changed (r.noteChanged_resting hchange)
      obtain ⟨warnings,heard⟩ := Session.heard_told (s := s) number "didChange" hreceive rfl
      have href : ref.hear number (.changed id texts) =
          (ref.setText id (some text)).finish number .heard := by
        simp [Reference.hear, hlast, h.shows.texts, hfind]
      rw [heard, href]
      refine (h.renewed number (l := l) hvalid (h.sound.valid.find?_changed hfind text) ?_ ?_
        updates config warnings r.events).rest
      · intro k' hk'
        obtain rfl := Option.some.inj (hfind.symm.trans hk')
        exact ⟨rfl, k.version.lt_next, rfl⟩
      · exact fun f hf => Nat.lt_succ_of_le ((h.shows.current id k hfind).le f hf)

theorem Mirrors.ends_closed (h : Mirrors timeout earlier r held s ref) (number : Nat) {id : DocumentId}
    {l : Lifetime Summary} (hl : r.store.find? id = some l) (service : Option (Service Summary))
    (warnings : List String) (events : List Event) :
    Ends timeout earlier { r with
        store := r.store.update l.generation fun x => { x with slot := x.slot.close }
        watches := r.watches.filter fun p => !decide (p.2.generation = l.generation)
        events }
      held (fun k => k.query.id = id) (fun k => .refused (.documentClosed k.watch.id))
      (s.told service (number,.heard) warnings) ((ref.setText id none).finish number .heard) := by
  have hfinds := h.sound.valid.find?_closed hl
  have hclose := Store.close_ok.mpr ⟨l, hl, rfl, rfl⟩
  have hvalid := (Store.close_change (p := fun _ _ => True) hclose).valid h.sound.valid
  refine { h.toTracks.told (number,.heard) service warnings _ with
           sound := (h.sound.of_store hvalid events).filter _,
           watches := others_held h.sound h.watches h.awaits hl,
           distinct := distinct_held h.sound h.watches, stays := ?_, ends := ?_,
           shows := ⟨h.shows.setText (l := none) hfinds, h.shows.clock, ?_⟩ }
  · intro k hk hid
    exact (h.awaits k hk).moved ((hfinds _).trans (if_neg (of_decide_eq_false hid))) rfl
  · intro k hk hid
    have htext : (ref.setText id none).texts k.query.id = none := by
      simp [Reference.setText, of_decide_eq_true hid]
    simp [Reference.result?, Reference.answer?, Reference.finish, Held.waiting, htext, Query.sent]
  · intro id' k hk
    rw [hfinds] at hk
    split at hk
    · simp at hk
    · exact h.shows.current id' k hk

theorem Mirrors.closed (h : Mirrors timeout earlier r held s ref) (number : Nat) (id : DocumentId) :
    ∃ r' held', Mirrors timeout earlier r' held'
      (s.heard number (.closed id)).rest
      ((ref.hear number (.closed id)).serve (overdue timeout)) := by
  obtain ⟨updates,config,hs⟩ := h.service
  let service : Service Summary := ⟨⟨summarizer,updates⟩,config,r.engine⟩
  have hhear : s.hear number (.closed id) =
      (s.tell service "didClose" (.close id)).finish number .heard := by
    simp only [Session.hear, hs, service]
  have href : ref.hear number (.closed id) = (ref.setText id none).finish number .heard := rfl
  rw [Session.heard, hhear, href]
  cases hfind : r.store.find? id with
  | none =>
    have hsame : ref.setText id none = ref := by
      have htext : ref.texts id = none := by simp [h.shows.texts, hfind]
      rw [Reference.setText, ← htext, Function.update_eq_self]
    rw [hsame]
    refine ⟨r, held, h.refused number .notOpen id hs ?_⟩
    simp only [Service.receive, r.noteClosed_unknown hfind]
  | some l =>
    have hclose := Store.close_ok.mpr ⟨l, hfind, rfl, rfl⟩
    obtain ⟨events,hnote⟩ := h.sound.noteClosed_resting hclose
    have honlookers := onlookers_held h.sound h.watches h.awaits hfind
    have hbehind : ∀ q ∈ r.onlookers l.generation, ∀ f, l.slot.latest = some f →
        f.version < q.2.atLeast := by
      rw [honlookers]
      intro q hq
      obtain ⟨k,hk,rfl⟩ := List.mem_map.mp hq
      obtain ⟨hk,hid⟩ := List.mem_filter.mp hk
      obtain ⟨k',hk',_,_,hf⟩ := (h.awaits k hk).lifetime
      obtain rfl := Option.some.inj ((of_decide_eq_true hid ▸ hk').symm.trans hfind)
      exact hf
    have hset := h.sound.settle_closed ⟨summarizer,updates⟩ hfind hbehind events
    have hreceive := service.receive_closed hnote
    obtain ⟨warnings,heard⟩ := Session.heard_told (s := s) number "didClose" hreceive rfl
    rw [heard]
    refine ⟨_, _, (h.ends_closed number hfind _ warnings events).rest rfl (hset.trans ?_)⟩
    rw [honlookers, List.map_map]
    rfl

theorem Session.heard_query (hs : s.service = some ⟨⟨summarizer,updates⟩,config,r.engine⟩)
    (number : Nat) (q : Query) :
    s.heard number (.query q) = ({ s with
      service := some ⟨⟨summarizer,updates⟩, config,
        (r.calling (.query q.id s.config.timeout)).turn ⟨summarizer,updates⟩ r.tickets⟩
      pending := s.pending ++ [⟨r.tickets,number,some q⟩] } : Session).gather := by
  simp only [Session.heard, Session.hear, hs]
  rfl

theorem Tracks.asked (h : Tracks timeout earlier held s ref) (new : Held) (hnow : new.since = ref.clock)
    (service : Option (Service Summary)) :
    Tracks timeout earlier (held ++ [new]) { s with service, pending := s.pending ++ [new.pending] }
      (ref.hear new.number (.query new.query)) where
  pending := by rw [h.pending, List.map_append, List.map_singleton]
  waiting := by
    rw [Reference.hear, h.waiting, List.map_append, List.map_singleton, ← hnow]
    rfl
  since k hk := by
    rcases List.mem_append.mp hk with hk | hk
    · exact h.since k hk
    · obtain rfl := List.mem_singleton.mp hk
      exact Nat.le_of_eq hnow
  outcomes := h.outcomes
  inbox := h.inbox
  running := h.running
  limit := h.limit

theorem Mirrors.numbered (h : Mirrors timeout earlier r held s ref) {k : Held} (hk : k ∈ held) :
    k.ticket < r.tickets := by
  have hin : k.entry ∈ r.watches := h.watches ▸ List.mem_map.mpr ⟨k,hk,rfl⟩
  exact (h.sound.numbered _ hin).2

theorem Mirrors.distinct_new (h : Mirrors timeout earlier r held s ref) {new : Held}
    (hnew : new.ticket = r.tickets) : ((held ++ [new]).map Held.ticket).Nodup := by
  rw [List.map_append, List.nodup_append]
  refine ⟨distinct_held h.sound h.watches, by simp, ?_⟩
  intro t ht u hu
  obtain ⟨k,hk,rfl⟩ := List.mem_map.mp ht
  obtain rfl : u = r.tickets := by simpa [hnew] using hu
  exact Nat.ne_of_lt (h.numbered hk)

theorem Mirrors.apart (h : Mirrors timeout earlier r held s ref) (new : Held)
    (hnew : new.ticket = r.tickets) :
    (held ++ [new]).filter (fun k => k.ticket = r.tickets) = [new] ∧
      (held ++ [new]).filter (fun k => !decide (k.ticket = r.tickets)) = held := by
  have hold : ∀ k ∈ held, k.ticket ≠ r.tickets := fun k hk => Nat.ne_of_lt (h.numbered hk)
  have hnone : held.filter (fun k => k.ticket = r.tickets) = [] :=
    List.filter_eq_nil_iff.mpr fun k hk => by simpa using hold k hk
  have hall : held.filter (fun k => !decide (k.ticket = r.tickets)) = held :=
    List.filter_eq_self.mpr fun k hk => by simpa using hold k hk
  rw [List.filter_append, List.filter_append, hnone, hall]
  simp [hnew]

theorem Mirrors.answered (h : Mirrors timeout earlier r held s ref) (number : Nat) (q : Query)
    {ending : Ending Summary} (hs : s.service = some ⟨⟨summarizer,updates⟩,config,r.engine⟩)
    (hturn : (r.calling (.query q.id timeout)).turn ⟨summarizer,updates⟩ r.tickets = r.answered ending)
    (hends : ref.result? (overdue timeout) ⟨number,q,ref.clock⟩ = some (q.sent ending)) :
    ∃ r' held', Mirrors timeout earlier r' held' (s.heard number (.query q)).rest
      ((ref.hear number (.query q)).serve (overdue timeout)) := by
  -- The query ends before it watches anything, so any watch will do here.
  let new : Held := ⟨r.tickets, number, q, ref.clock, ⟨q.id,0,.baseline,0,0,none,.finding⟩⟩
  let p : Held → Bool := fun k => k.ticket = r.tickets
  obtain ⟨hgone,hkept⟩ := h.apart new rfl
  have hask := h.toTracks.asked new rfl (some ⟨⟨summarizer,updates⟩, config, r.answered ending⟩)
  have hasked : Ends timeout earlier { r with tickets := r.tickets + 1 } (held ++ [new]) p
      (fun _ => ending)
      { s with
        service := some ⟨⟨summarizer,updates⟩, config, r.answered ending⟩
        pending := s.pending ++ [new.pending] } (ref.hear number (.query q)) := by
    refine { hask with sound := { h.sound.counted with }, distinct := h.distinct_new rfl,
                       watches := by rw [hkept]; exact h.watches, stays := ?_, ends := ?_,
                       shows := ⟨h.shows.texts,h.shows.clock,h.shows.current⟩ }
    · intro k hk hp
      have hin : k ∈ held := hkept ▸ List.mem_filter.mpr ⟨hk, by simpa [p] using hp⟩
      exact (h.awaits k hin).moved rfl rfl
    · intro k hk hp
      have hnew : k ∈ [new] := hgone ▸ List.mem_filter.mpr ⟨hk,hp⟩
      exact List.mem_singleton.mp hnew ▸ hends
  have hservice : some (⟨⟨summarizer,updates⟩, config, r.answered ending⟩ : Service Summary) =
      some ⟨⟨summarizer,updates⟩, config, ({ r with tickets := r.tickets + 1 } : Resting Summary).roused []
        (((held ++ [new]).filter p).map fun k => (k.ticket,ending))⟩ := by
    rw [hgone]
    rfl
  have hm := hasked.gather hservice
  rw [Session.heard_query hs, h.limit, hturn]
  exact ⟨_, _, hm.rest⟩

theorem Mirrors.watched (h : Mirrors timeout earlier r held s ref) (number : Nat) (q : Query)
    {l : Lifetime Summary} (hs : s.service = some ⟨⟨summarizer,updates⟩,config,r.engine⟩)
    (hl : r.store.find? q.id = some l) (hf : ∀ f, l.slot.latest = some f → f.version < l.version)
    (hd : r.clock < (r.query l timeout).deadline) :
    ∃ r' held', Mirrors timeout earlier r' held' (s.heard number (.query q)).rest
      ((ref.hear number (.query q)).serve (overdue timeout)) := by
  let v := r.query l timeout
  let new : Held := ⟨r.tickets,number,q,ref.clock,v⟩
  have hturn := h.sound.query_waits ⟨summarizer,updates⟩ hl timeout hf hd
  have hask := h.toTracks.asked new rfl (some ⟨⟨summarizer,updates⟩, config, (r.watched v).engine⟩)
  have hdeadline : v.deadline =
      min (min ref.clock Engine.lastMoment + min timeout Engine.longestWait) Engine.lastMoment := by
    rw [← h.shows.clock]
    rfl
  -- All queries wait equally long, so the alarms go off in the order in which they were set.
  have hrising : ∀ w ∈ r.watches, w.2.deadline ≤ v.deadline := by
    intro w hw
    obtain ⟨k,hk,rfl⟩ := List.mem_map.mp (h.watches ▸ hw)
    have hsince := h.since k hk
    rw [Held.entry, (h.awaits k hk).deadline, hdeadline]
    omega
  have hm : Mirrors timeout earlier (r.watched v) (held ++ [new])
      { s with
        service := some ⟨⟨summarizer,updates⟩, config, (r.watched v).engine⟩
        pending := s.pending ++ [new.pending] } (ref.hear number (.query q)) := by
    refine { hask with service := ⟨updates,config,rfl⟩, watches := ?_, awaits := ?_,
                       sound := h.sound.watched hrising,
                       shows := ⟨h.shows.texts,h.shows.clock,h.shows.current⟩ }
    · rw [Resting.watched, h.watches, List.map_append, List.map_singleton]
      rfl
    · intro k hk
      rcases List.mem_append.mp hk with hk | hk
      · exact (h.awaits k hk).moved rfl rfl
      · obtain rfl := List.mem_singleton.mp hk
        exact ⟨(Store.find?_spec hl).2.1, ⟨l,hl,rfl,Version.le_refl _,hf⟩, hdeadline, hd, _, _, rfl⟩
  rw [Session.heard_query hs, h.limit, hturn, Session.gather_still _ rfl rfl, hm.serve]
  exact ⟨_, _, hm.rest⟩

theorem Mirrors.queried (h : Mirrors timeout earlier r held s ref) (number : Nat) (q : Query) :
    ∃ r' held', Mirrors timeout earlier r' held' (s.heard number (.query q)).rest
      ((ref.hear number (.query q)).serve (overdue timeout)) := by
  obtain ⟨updates,config,hs⟩ := h.service
  let w : Worker Summary := ⟨summarizer,updates⟩
  cases hl : r.store.find? q.id with
  | none =>
    have htext : ref.texts q.id = none := by simp [h.shows.texts, hl]
    refine h.answered number q hs (h.sound.query_unknown w timeout hl) ?_
    simp [Reference.result?, Reference.answer?, htext, Query.sent]
  | some l =>
    have htext : ref.texts q.id = some l.text := by simp [h.shows.texts, hl]
    have hcurrent := h.shows.current q.id l hl
    cases hsum : Source.summarize l.text with
    | ok summary =>
      refine h.answered number q hs
        (h.sound.query_found w hl timeout (hcurrent.found summary hsum) rfl) ?_
      simp [Reference.result?, Reference.answer?, htext, hsum, Query.sent]
    | error fault =>
      have hf := hcurrent.behind fault hsum
      by_cases hd : (r.query l timeout).deadline ≤ r.clock
      · refine h.answered number q hs (h.sound.query_late w hl timeout hf hd) ?_
        have hlate : overdue timeout ref.clock ref.clock = true := by
          rw [overdue, ← h.shows.clock]
          exact decide_eq_true hd
        simp [Reference.result?, Reference.answer?, htext, hsum, hlate, Query.sent]
      · exact h.watched number q hs hl hf (Nat.lt_of_not_le hd)

theorem Mirrors.ends_late (h : Mirrors timeout earlier r held s ref) (ms : Nat)
    (service : Option (Service Summary)) :
    let clock := min (r.clock + ms) Engine.lastMoment
    Ends timeout earlier
      { r with clock, watches := r.watches.filter fun p => !decide (p.2.deadline ≤ clock) }
      held (fun k => k.watch.deadline ≤ clock)
      (fun k => .refused (.timedOut k.watch.id k.watch.atLeast k.watch.timeout))
      { s with service } { ref with clock := ref.clock + ms } := by
  intro clock
  have hclock : clock = min (ref.clock + ms) Engine.lastMoment := by
    have hnow := h.shows.clock
    simp only [clock]
    omega
  refine { h.toTracks with
           sound := ⟨h.sound.valid, Nat.min_le_right _ _, h.sound.begun, ?_, h.sound.rising.filter _⟩,
           watches := ?_, distinct := distinct_held h.sound h.watches, stays := ?_, ends := ?_,
           since := ?_, shows := ⟨h.shows.texts,hclock,h.shows.current⟩ }
  · exact fun k hk => Nat.le_trans (h.since k hk) (Nat.le_add_right _ _)
  · exact fun q hq => h.sound.numbered q (List.mem_of_mem_filter hq)
  · simp only [h.watches, List.filter_map]
    rfl
  · intro k hk hp
    exact { h.awaits k hk with patient := Nat.lt_of_not_le (of_decide_eq_false hp) }
  · intro k hk hp
    have hlate : overdue timeout k.since (ref.clock + ms) = true := by
      rw [overdue, ← (h.awaits k hk).deadline, ← hclock]
      exact hp
    have hanswer := (h.awaits k hk).unanswered h.shows
    have hresult : ({ ref with clock := ref.clock + ms } : Reference).answer? k.query = none := hanswer
    simp [Reference.result?, Held.waiting, hresult, hlate, Query.sent]

theorem Mirrors.advanced (h : Mirrors timeout earlier r held s ref) (ms : Nat) :
    ∃ r' held', Mirrors timeout earlier r' held' (s.take (.advance ms))
      (ref.take (overdue timeout) (.advance ms)) := by
  obtain ⟨updates,config,hs⟩ := h.service
  have htake : s.take (.advance ms) = ({ s with
      service := some ⟨⟨summarizer,updates⟩, config, r.engine.advance ms⟩ } : Session).rest := by
    have hadvance : s.advance ms =
        { s with service := some ⟨⟨summarizer,updates⟩, config, r.engine.advance ms⟩ } := by
      simp only [Session.advance, hs]
      rfl
    simp only [Session.take, hadvance, Session.settle, h.inbox, List.foldl_nil]
    rw [← h.inbox]
    rfl
  have hwaits : ∀ q ∈ r.watches, r.clock < q.2.deadline ∧
      ∃ l, r.store.ofGeneration? q.2.generation = some l ∧ l.slot.closed = false ∧
        ∀ f, l.slot.latest = some f → f.version < q.2.atLeast := by
    intro q hq
    obtain ⟨k,hk,rfl⟩ := List.mem_map.mp (h.watches ▸ hq)
    obtain ⟨l,hl,hg,_,hf⟩ := (h.awaits k hk).lifetime
    obtain ⟨hm,_,ho⟩ := Store.find?_spec hl
    refine ⟨(h.awaits k hk).patient, l, hg ▸ h.sound.valid.ofGeneration?_eq hm, ?_, hf⟩
    simpa [Lifetime.isOpen] using ho
  have hset := h.sound.settle_advanced ⟨summarizer,updates⟩ ms hwaits
  rw [htake]
  refine ⟨_, _, (h.ends_late ms _).rest rfl (hset.trans (congrArg (Resting.roused _ []) ?_))⟩
  rw [Resting.due, h.watches, List.filter_map, List.map_map]
  rfl

theorem Message.read_shutdown {method : String} {params : Json.Value}
    (h : Message.read method params = .ok .shutdown) : method = "shutdown" := by
  unfold Message.read at h
  split at h
  · simp at h
  · rename_i read hread
    have hsome : read params = some .shutdown := by
      cases hp : read params <;> simp_all
    unfold reader? at hread
    split at hread
    case h_3 => rfl
    case h_11 => simp at hread
    all_goals
      cases hread
      simp [openedOf?, changedOf?, closedOf?, queryOf?, referencesOf?, Option.bind_eq_some_iff] at hsome

theorem Mirrors.take (h : Mirrors timeout earlier r held s ref) (step : Step)
    (hstep : ∀ m, step = .message m → m.method ≠ "shutdown") :
    ∃ r' held', Mirrors timeout earlier r' held' (s.take step) (ref.take (overdue timeout) step) := by
  cases step with
  | advance ms => exact h.advanced ms
  | message m =>
    obtain ⟨updates,config,hs⟩ := h.service
    have haccept := Session.accept_eq hs h.running m
    cases ha : Reference.accept m with
    | error f =>
      rw [s.take_refused h.inbox (haccept.trans ha)]
      simp only [Reference.take, ha]
      exact ⟨r, held, h.same m.number (m.refusal f) s.warnings⟩
    | ok message =>
      have hread : Message.read m.method m.params = .ok message ∧
          ∀ options, message ≠ .connect options := by
        unfold Reference.accept at ha
        split at ha
        · simp at ha
        · rename_i hne
          exact ⟨ha, fun options he => hne options (he ▸ ha)⟩
      have hshut : message ≠ .shutdown := fun he => hstep m rfl (Message.read_shutdown (he ▸ hread.1))
      rw [s.take_message h.inbox (haccept.trans ha) h.running hshut]
      simp only [Reference.take, ha]
      cases message with
      | connect options => exact absurd rfl (hread.2 options)
      | connected =>
        have hheard : s.heard m.number .connected = s.finish m.number .heard := by
          simp only [Session.heard, Session.hear]
          exact Session.gather_still _ hs rfl
        rw [hheard]
        exact ⟨r, held, h.same m.number .heard s.warnings⟩
      | shutdown => exact absurd rfl hshut
      | opened id text => exact h.opened m.number id text
      | changed id texts => exact h.changed m.number id texts
      | closed id => exact h.closed m.number id
      | query q => exact h.queried m.number q

theorem Mirrors.after (h : Mirrors timeout earlier r held s ref) (steps : List Step)
    (hsteps : ∀ m, .message m ∈ steps → m.method ≠ "shutdown") :
    ∃ r' held', Mirrors timeout earlier r' held' (s.after steps) (ref.after (overdue timeout) steps) := by
  induction steps generalizing r held s ref with
  | nil => exact ⟨r,held,h⟩
  | cons step steps ih =>
    obtain ⟨r',held',h'⟩ := h.take step fun m hm => hsteps m (hm ▸ List.mem_cons_self)
    exact ih h' fun m hm => hsteps m (List.mem_cons_of_mem _ hm)

end

structure Session.Fresh (s : Session) : Prop where
  service : s.service = none
  inbox : s.inbox = []
  pending : s.pending = []
  running : s.shutDown = false

theorem Session.Fresh.configure {s : Session} (hs : s.Fresh) (options : Option Json.Value) :
    (s.configure options).Fresh ∧ (s.configure options).outcomes = s.outcomes := by
  obtain ⟨hservice,hinbox,hpending,hrunning⟩ := hs
  cases options <;> exact ⟨⟨hservice,hinbox,hpending,hrunning⟩,rfl⟩

theorem Session.Fresh.connected {s : Session} (hs : s.Fresh) {m : Incoming}
    (hm : m.method = "initialize") :
    ∃ r, Mirrors (s.take (.message m)).config.timeout (s.outcomes ++ [(m.number, .result capabilities)])
      r [] (s.take (.message m)) {} := by
  let options := optionsOf m.params
  have hread : Message.read m.method m.params = .ok (.connect options) := hm ▸ rfl
  have haccept : s.accept m = .ok (.connect options) := by
    simp only [Session.accept, hread, hs.service, hs.running]
    rfl
  let s' := s.configure options
  obtain ⟨hfresh,houtcomes⟩ := hs.configure options
  let service := Service.start summarizer s'.config none
  let connected : Session := { s' with
    service := some service
    outcomes := s'.outcomes ++ [(m.number, .result capabilities)] }
  have hheard : s.heard m.number (.connect options) = connected := by
    have hhear : s.hear m.number (.connect options) = connected := by
      simp only [Session.hear, Session.connect, connected]
      rw [hfresh.service]
      rfl
    rw [Session.heard, hhear]
    exact Session.gather_still _ rfl rfl
  rw [Session.take_message hs.inbox haccept hs.running (by simp), hheard]
  obtain ⟨events,hset⟩ := Resting.settle_start summarizer s'.config
  have htracks : Tracks s'.config.timeout (s.outcomes ++ [(m.number, .result capabilities)]) []
      connected {} := by
    refine ⟨hfresh.pending, rfl, by simp, ?_, hfresh.inbox, hfresh.running, rfl⟩
    simp only [connected, s', houtcomes]
    exact (List.append_nil _).symm
  have hshows : Shows ({ events } : Resting Summary) {} :=
    ⟨fun _ => rfl, rfl, fun id l hl => by simp [Store.find?] at hl⟩
  have hm := htracks.rest (Resting.sound_start events) rfl (by simp) hshows rfl hset
  refine ⟨{ events }, ?_⟩
  rw [hm.limit]
  exact hm

theorem Session.refines_reference {s : Session} (hs : s.Fresh) {m : Incoming}
    (hm : m.method = "initialize") (steps : List Step)
    (hsteps : ∀ m, .message m ∈ steps → m.method ≠ "shutdown") :
    let connected := s.take (.message m)
    let reference := Reference.after (overdue connected.config.timeout) {} steps
    connected.outcomes = s.outcomes ++ [(m.number, .result capabilities)] ∧
    (connected.after steps).outcomes = connected.outcomes ++ reference.outcomes ∧
    ((connected.after steps).pending.map fun p => (p.number,p.query)) =
      reference.waiting.map fun w => (w.number, some w.query) := by
  intro connected reference
  obtain ⟨r,hfirst⟩ := hs.connected hm
  obtain ⟨r',held,hlast⟩ := hfirst.after steps hsteps
  have hconnected : connected.outcomes = s.outcomes ++ [(m.number, .result capabilities)] :=
    hfirst.outcomes.trans (List.append_nil _)
  refine ⟨hconnected, hconnected ▸ hlast.outcomes, ?_⟩
  rw [hlast.pending, hlast.waiting, List.map_map, List.map_map]
  rfl

namespace Unclosed

def document (more : List (String × Json.Value)) : String × Json.Value :=
  ("textDocument", .obj (("uri", .str "file:///a.py") :: more))

def greeting : Incoming :=
  ⟨0, true, "initialize", .obj []⟩

def opened : Incoming :=
  ⟨1, false, "textDocument/didOpen", .obj [document [("text", .str "(")]]⟩

def hover : Incoming :=
  ⟨2, true, "textDocument/hover",
    .obj [document [], ("position", .obj [("line", .int 0), ("character", .int 0)])]⟩

def mended : Incoming :=
  ⟨3, false, "textDocument/didChange",
    .obj [document [], ("contentChanges", .arr [.obj [("text", .str "x = 1")]])]⟩

end Unclosed

open Unclosed

theorem Session.refines_reference_mended :
    let steps := [.message opened, .message hover, .advance 1000, .message mended]
    let connected := ({} : Session).take (.message greeting)
    let reference := Reference.after (overdue connected.config.timeout) {} steps
    ({} : Session).Fresh ∧ greeting.method = "initialize" ∧
    (∀ m, Step.message m ∈ steps → m.method ≠ "shutdown") ∧
    reference.outcomes.map (·.1) = [1,3,2] ∧
    connected.outcomes = [(0, .result capabilities)] ∧
    (connected.after steps).outcomes = connected.outcomes ++ reference.outcomes ∧
    ((connected.after steps).pending.map fun p => (p.number,p.query)) =
      reference.waiting.map fun w => (w.number, some w.query) := by
  intro steps connected reference
  have hfresh : ({} : Session).Fresh := ⟨rfl,rfl,rfl,rfl⟩
  have hsteps : ∀ m, Step.message m ∈ steps → m.method ≠ "shutdown" := by
    simp [steps, opened, hover, mended]
  have hnumbers : reference.outcomes.map (·.1) = [1,3,2] := by decide +kernel
  exact ⟨hfresh, rfl, hsteps, hnumbers, Session.refines_reference hfresh rfl steps hsteps⟩

theorem Session.long_query_ends_early :
    let timeout := 946080000001
    let steps := [.message opened, .message hover, .advance 946080000000]
    let connected := ({ config := { timeout } } : Session).take (.message greeting)
    let reference := Reference.after (fun since now => since + timeout ≤ now) {} steps
    (connected.after steps).pending.map Pending.number = [] ∧
    reference.waiting.map Waiting.number = [2] := by
  decide +kernel

end Editor

end LiveAnalysis
