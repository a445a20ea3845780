import LiveAnalysis.Command.Output
import LiveAnalysis.Proofs.Energy

namespace LiveAnalysis

def File.summary? (f : File) : Option Source.Summary :=
  f.content.toOption.bind fun text => (Source.summarize text).toOption

namespace Batch

open Service

/-! A batch, where the service goes on in any order while files are opened and waited for. -/

def Hopeless (s : Analyses) (id : DocumentId) : Prop :=
  ∀ moves : List Move, (∀ m ∈ moves, m.isInner = true) → (s.after moves).latest id = .ok none

inductive Opens : Analyses → List File → Analyses → List (File × Option Problem) → Prop where
  | done (s) : Opens s [] s []
  | file {s s' s'' f problem more opened} (moves : List Move) (hm : ∀ m ∈ moves, m.isInner = true)
    (ho : openFile (s.after moves) f = (s',problem)) (hmore : Opens s' more s'' opened) :
    Opens s (f :: more) s'' ((f,problem) :: opened)

/-- A wait may time out only where it is hopeless. -/
inductive Awaits (timeout : Nat) (now : Time.Instant) :
    Analyses → List (File × Option Problem) → List Report → Prop where
  | done (s) : Awaits timeout now s [] []
  | failed {s f problem more reports} (hmore : Awaits timeout now s more reports) :
    Awaits timeout now s ((f, some problem) :: more) (failed f now problem.message :: reports)
  | heard {s s₁ s₂ f x more reports} (before moves : List Move) (hb : ∀ m ∈ before, m.isInner = true)
    (hm : ∀ m ∈ moves, m.isInner = true) (h₁ : s₁ = s.after before)
    (h₂ : s₂ = (s₁.receive (.call (.wait f.id none timeout none))).1.after moves)
    (hx : endingOf? s₂ s₁.engine.tickets = some x)
    (hp : ∀ id atLeast waited, x = .refused (.timedOut id atLeast waited) → Hopeless s₂ f.id)
    (hmore : Awaits timeout now s₂ more reports) :
    Awaits timeout now s ((f, none) :: more) (reportOf f now (some x) :: reports)

def MayReport (config : Config) (timeout : Nat) (now : Time.Instant) (files : List File)
    (reports : List Report) : Prop :=
  ∃ s opened, Opens (Service.start summarizer config none) files s opened ∧ Awaits timeout now s opened reports

def taken (earlier : List File) (id : DocumentId) : Bool :=
  earlier.any fun g => g.id = id && g.content.isOk

def problem? (earlier : List File) (f : File) : Option Problem :=
  match f.content with
  | .error fault => some (.unreadable f.path fault)
  | .ok _ => if taken earlier f.id then some (.refused (.alreadyOpen f.id)) else none

def opening (earlier : List File) : List File → List (File × Option Problem)
  | [] => []
  | f :: more => (f, problem? earlier f) :: opening (earlier ++ [f]) more

def reportFor (timeout : Nat) (now : Time.Instant) (f : File) : Option Problem → Report
  | some problem => failed f now problem.message
  | none =>
    match f.summary? with
    | some summary => { document := f.id, version := .baseline, computedAt := now, payload := some summary }
    | none => failed f now (Refusal.timedOut f.id .baseline timeout).message

theorem problem?_congr {earlier others : List File} {f : File} (h : taken earlier f.id = taken others f.id) :
    problem? earlier f = problem? others f := by
  simp only [problem?, h]

theorem opening_getElem? (earlier files : List File) (i : Nat) :
    (opening earlier files)[i]? = files[i]?.map fun f => (f, problem? (earlier ++ files.take i) f) := by
  induction files generalizing earlier i with
  | nil => rfl
  | cons f more ih =>
    cases i with
    | zero => simp [opening]
    | succ i =>
      simp only [opening, List.getElem?_cons_succ, List.take_succ_cons, ih, List.append_assoc,
        List.singleton_append]

theorem opening_length (earlier files : List File) : (opening earlier files).length = files.length := by
  induction files generalizing earlier with
  | nil => rfl
  | cons f more ih => simp only [opening, List.length_cons, ih]

theorem taken_concat (earlier : List File) (f : File) (id : DocumentId) :
    taken (earlier ++ [f]) id = (taken earlier id || (f.id = id && f.content.isOk)) := by
  simp [taken]

abbrev going (config : Config) (moves : List Move) : Analyses :=
  (Service.start summarizer config none).after moves

variable {config : Config} {moves more : List Move}

theorem going_append (more : List Move) : (going config moves).after more = going config (moves ++ more) :=
  (after_append _ moves more).symm

theorem going_concat (m : Move) : (going config moves).move m = going config (moves ++ [m]) :=
  (after_concat _ moves m).symm

theorem openFile_unreadable {s : Analyses} {f : File} {fault : ReadFault} (hf : f.content = .error fault) :
    openFile s f = (s, some (.unreadable f.path fault)) := by
  simp only [openFile, hf]

theorem openFile_readable {s : Analyses} {f : File} {text : String} (hf : f.content = .ok text)
    (hr : s.engine.stopped = false) : openFile s f = (s.move (.ask (.openDocument f.id text)),
      if s.engine.store.contains f.id then some (.refused (.alreadyOpen f.id)) else none) := by
  cases hl : s.engine.store.find? f.id with
  | some l => simp [openFile, hf, move, receive, Engine.noteOpened_refuses text hr hl, Store.contains, hl]
  | none =>
    obtain ⟨e,hn⟩ := Engine.noteOpened_accepts text hr hl
    simp [openFile, hf, move, receive, hn, Store.contains, hl]

theorem reopened {id : DocumentId} {l : Lifetime Source.Summary} (h : Mild moves)
    (hl : (reached summarizer config none moves).store.find? id = some l) (text : String) :
    reached summarizer config none (moves ++ [.ask (.openDocument id text)]) =
      reached summarizer config none moves := by
  rw [reached_concat]
  have hr := (quiet_reached summarizer config h).running
  simp only [Move.engine, Engine.move, receive, Engine.noteOpened_refuses text hr hl]

theorem newly_opened {id : DocumentId} (h : Mild moves)
    (hn : (reached summarizer config none moves).store.find? id = none) (text : String) :
    ∃ l : Lifetime Source.Summary, l.text = text ∧ ∀ id',
      (reached summarizer config none (moves ++ [.ask (.openDocument id text)])).store.find? id' =
        if id' = id then some l else (reached summarizer config none moves).store.find? id' := by
  obtain ⟨e,he⟩ := Engine.noteOpened_accepts text (quiet_reached summarizer config h).running hn
  have hreached : reached summarizer config none (moves ++ [.ask (.openDocument id text)]) = e := by
    rw [reached_concat]
    simp only [Move.engine, Engine.move, receive, he]
  obtain ⟨_,hstore⟩ := Store.openDocument_ok.mp (Engine.noteOpened_store he)
  refine ⟨{ id, generation := (reached summarizer config none moves).store.lifetimes.length + 1, text }, rfl,
    fun id' => ?_⟩
  rw [hreached, hstore]
  exact Store.find?_opened _ id' _ rfl

def Holds (e : Engine Source.Summary) (p : File × Option Problem) : Prop :=
  p.2 = none → ∃ l, e.store.find? p.1.id = some l ∧ p.1.content = .ok l.text

structure Opened (config : Config) (earlier : List File) (moves : List Move) : Prop where
  mild : Mild moves
  present : ∀ id, (reached summarizer config none moves).store.contains id = taken earlier id

theorem Holds.stays (h : Mild (moves ++ more)) {p : File × Option Problem}
    (hp : Holds (reached summarizer config none moves) p) :
    Holds (reached summarizer config none (moves ++ more)) p := by
  intro hn
  obtain ⟨l,hl,ht⟩ := hp hn
  obtain ⟨l',hl',_,htext⟩ := stays_open h hl
  exact ⟨l', hl', htext ▸ ht⟩

theorem Opened.inner {earlier : List File} (h : Opened config earlier moves) (hi : ∀ m ∈ more, m.isInner = true) :
    Opened config earlier (moves ++ more) where
  mild := mild_append.mpr ⟨h.mild,mild_of_inner hi⟩
  present id := (contains_inner h.mild hi id).trans (h.present id)

theorem Opened.openFile {earlier : List File} (h : Opened config earlier moves) (f : File) :
    ∃ own, Batch.openFile (going config moves) f = (going config (moves ++ own), problem? earlier f) ∧
      Opened config (earlier ++ [f]) (moves ++ own) ∧
      Holds (reached summarizer config none (moves ++ own)) (f, problem? earlier f) := by
  cases hf : f.content with
  | error fault =>
    have hp : problem? earlier f = some (.unreadable f.path fault) := by simp only [problem?, hf]
    refine ⟨[], ?_, ?_, by simp [Holds, hp]⟩
    · rw [openFile_unreadable hf, List.append_nil, hp]
    · rw [List.append_nil]
      refine ⟨h.mild, fun id => ?_⟩
      rw [h.present, taken_concat, hf]
      simp [Except.isOk, Except.toBool]
  | ok text =>
    have hq := quiet_reached summarizer config h.mild
    have hp : problem? earlier f = if taken earlier f.id then some (.refused (.alreadyOpen f.id)) else none := by
      simp only [problem?, hf]
    have hmild : Mild (moves ++ [.ask (.openDocument f.id text)]) :=
      mild_append.mpr ⟨h.mild, by simp [Mild, Move.isMild]⟩
    refine ⟨[.ask (.openDocument f.id text)], ?_, ?_⟩
    · rw [openFile_readable (s := going config moves) hf hq.running, hp, ← h.present]
      exact congrArg₂ Prod.mk (after_concat _ moves _).symm rfl
    cases hl : (reached summarizer config none moves).store.find? f.id with
    | some l =>
      have htaken : taken earlier f.id = true := by
        rw [← h.present, Store.contains_iff]
        exact ⟨l,hl⟩
      rw [hp, if_pos htaken]
      refine ⟨⟨hmild, fun id => ?_⟩, by simp [Holds]⟩
      rw [reopened h.mild hl, h.present, taken_concat]
      by_cases hid : f.id = id
      · simp [← hid, htaken]
      · simp [hid]
    | none =>
      have hfree : taken earlier f.id = false := by
        rw [← h.present, Store.contains, hl]
        rfl
      obtain ⟨l,htext,hfind⟩ := newly_opened h.mild hl text
      rw [hp, hfree]
      refine ⟨⟨hmild, fun id => ?_⟩, fun _ => ⟨l, (hfind f.id).trans (if_pos rfl), by rw [hf, htext]⟩⟩
      rw [Store.contains, hfind, taken_concat, hf]
      by_cases hid : id = f.id
      · simp [hid, Except.isOk, Except.toBool]
      · rw [if_neg hid, ← h.present, Store.contains]
        simp [Ne.symm hid]

theorem Opens.spec {s s' : Analyses} {earlier files : List File} {opened : List (File × Option Problem)}
    (h : Opens s files s' opened) (hs : s = going config moves) (ho : Opened config earlier moves) :
    opened = opening earlier files ∧ ∃ more, s' = going config (moves ++ more) ∧ Mild (moves ++ more) ∧
      ∀ p ∈ opened, Holds (reached summarizer config none (moves ++ more)) p := by
  induction h generalizing earlier moves with
  | done s => exact ⟨rfl, [], by rw [List.append_nil, hs], by rw [List.append_nil]; exact ho.mild, by simp⟩
  | @file s s' s'' f problem files opened between hm hopen _ ih =>
    obtain ⟨own,hfile,hown,hholds⟩ := (ho.inner hm).openFile f
    rw [hs, going_append, hfile] at hopen
    obtain ⟨rfl,rfl⟩ := Prod.mk.inj hopen
    obtain ⟨rfl,more,hs'',hmild,hall⟩ := ih rfl hown
    refine ⟨rfl, between ++ own ++ more, ?_⟩
    simp only [← List.append_assoc]
    refine ⟨hs'', hmild, fun p hp => ?_⟩
    rcases List.mem_cons.mp hp with rfl | hp
    · exact hholds.stays hmild
    · exact hall p hp

theorem endingOf?_mem {s : Analyses} {t : Ticket} {x : Ending Source.Summary} (h : endingOf? s t = some x) :
    (t,x) ∈ s.engine.ended := by
  obtain ⟨p,hp,rfl⟩ := Option.map_eq_some_iff.mp h
  have ht : p.1 = t := by simpa using List.find?_some hp
  exact ht ▸ List.mem_of_find?_eq_some hp

theorem endingOf?_of_mem {s : Analyses} {t : Ticket} {x : Ending Source.Summary} (h : (t,x) ∈ s.engine.ended) :
    ∃ y, endingOf? s t = some y := by
  cases hf : s.engine.ended.find? (·.1 = t) with
  | some p => exact ⟨p.2, by simp [endingOf?, hf]⟩
  | none => simpa using List.find?_eq_none.mp hf _ h

theorem summarizer_found {call : Nat} {text : String} {v : Version} {summary : Source.Summary} :
    summarizer call text v = .found summary ↔ Source.summarize text = .ok summary := by
  unfold summarizer
  split <;> rename_i hs <;> simp [hs]

theorem summarizer_failed {call : Nat} {text : String} {v : Version} :
    (summarizer call text v).isFailure = true ↔ ∃ fault, Source.summarize text = .error fault := by
  unfold summarizer
  split <;> rename_i hs <;> simp [hs, Verdict.isFailure]

theorem summary?_eq {f : File} {text : String} (hf : f.content = .ok text) :
    f.summary? = (Source.summarize text).toOption := by
  simp [File.summary?, hf, Except.toOption]

theorem summary?_found {f : File} {text : String} (hf : f.content = .ok text) {call : Nat} {v : Version}
    {summary : Source.Summary} (h : summarizer call text v = .found summary) : f.summary? = some summary := by
  rw [summary?_eq hf, summarizer_found.mp h]
  rfl

theorem summary?_failed {f : File} {text : String} (hf : f.content = .ok text) {call : Nat} {v : Version}
    (h : (summarizer call text v).isFailure = true) : f.summary? = none := by
  obtain ⟨fault,hs⟩ := summarizer_failed.mp h
  rw [summary?_eq hf, hs]
  rfl

theorem going_latest {id : DocumentId} {l : Lifetime Source.Summary}
    (hl : (reached summarizer config none moves).store.find? id = some l) :
    (going config moves).latest id = .ok l.slot.latest := by
  change ((reached summarizer config none moves).store.get id).map _ = _
  rw [Store.get_ok.mpr hl]
  rfl

theorem Hopeless.failed {f : File} (h : Hopeless (going config moves) f.id) (hm : Mild moves)
    (ho : Holds (reached summarizer config none moves) (f, none)) : f.summary? = none := by
  -- Once all has settled, the text has been analysed, and what it brought is there unless it failed.
  obtain ⟨l,hl,hf⟩ := ho rfl
  obtain ⟨more,hinner,_,hsettled,_⟩ := settles summarizer config hm
  have hmild := mild_append.mpr ⟨hm,mild_of_inner hinner⟩
  obtain ⟨l',hl',_,htext⟩ := stays_open hmild hl
  have hnone := h more hinner
  rw [going_append, going_latest hl'] at hnone
  rcases analysed hmild (Engine.isSettled_ready hsettled) hl' with ⟨finding,hfinding⟩ | ⟨call,hfail⟩
  · simp [hfinding] at hnone
  · exact summary?_failed (htext ▸ hf) hfail

theorem heard_report {timeout : Nat} {f : File} {x : Ending Source.Summary} (now : Time.Instant)
    (h : Mild (moves ++ asks f.id timeout :: more))
    (ho : Holds (reached summarizer config none moves) (f, none))
    (hx : endingOf? (going config (moves ++ asks f.id timeout :: more))
      (going config moves).engine.tickets = some x)
    (hp : ∀ id atLeast waited, x = .refused (.timedOut id atLeast waited) →
      Hopeless (going config (moves ++ asks f.id timeout :: more)) f.id) :
    reportOf f now (some x) = reportFor timeout now f none := by
  obtain ⟨l,hl,hf⟩ := ho rfl
  rcases asked_ends h hl (endingOf?_mem hx) with ⟨finding,call,rfl,hv,hfound⟩ | rfl
  · simp only [reportOf, reportFor, summary?_found hf hfound, hv]
  · simp only [reportOf, reportFor, (hp _ _ _ rfl).failed h (ho.stays h)]

theorem Awaits.spec {timeout : Nat} {now : Time.Instant} {s : Analyses} {opened : List (File × Option Problem)}
    {reports : List Report} (h : Awaits timeout now s opened reports) (hs : s = going config moves)
    (hm : Mild moves) (ho : ∀ p ∈ opened, Holds (reached summarizer config none moves) p) :
    reports = opened.map fun p => reportFor timeout now p.1 p.2 := by
  induction h generalizing moves with
  | done s => rfl
  | @failed s f problem opened reports _ ih =>
    rw [List.map_cons, ih hs hm fun p hp => ho p (List.mem_cons_of_mem _ hp)]
    rfl
  | @heard s s₁ s₂ f x opened reports before after hb ha h₁ h₂ hx hp _ ih =>
    have hbefore : Mild (moves ++ before) := mild_append.mpr ⟨hm,mild_of_inner hb⟩
    have hmild : Mild (moves ++ before ++ asks f.id timeout :: after) :=
      mild_append.mpr ⟨hbefore, List.forall_mem_cons.mpr ⟨rfl,mild_of_inner ha⟩⟩
    rw [hs, going_append] at h₁
    subst h₁
    change s₂ = (going config (moves ++ before)).after (asks f.id timeout :: after) at h₂
    rw [going_append] at h₂
    subst h₂
    rw [List.map_cons, heard_report now hmild ((ho _ List.mem_cons_self).stays hbefore) hx hp,
      ih rfl hmild fun p hp => ?_]
    rw [List.append_assoc] at hmild ⊢
    exact (ho p (List.mem_cons_of_mem _ hp)).stays hmild

theorem openFile_clock (s : Analyses) (f : File) : (openFile s f).1.engine.clock = s.engine.clock := by
  cases hf : f.content with
  | error fault => rw [openFile_unreadable hf]
  | ok text =>
    cases hn : s.engine.noteOpened f.id text with
    | ok e => simp [Batch.openFile, hf, receive, hn, (Engine.keeps_noteOpened hn).clock]
    | error why => simp [Batch.openFile, hf, receive, hn]

theorem openFiles_opens {earlier : List File} (files : List File) (ho : Opened config earlier moves) :
    Opens (going config moves) files (openFiles (going config moves) files).1
        (openFiles (going config moves) files).2 ∧
      (openFiles (going config moves) files).1.engine.clock = (reached summarizer config none moves).clock := by
  induction files generalizing earlier moves with
  | nil => exact ⟨.done _,rfl⟩
  | cons f more ih =>
    obtain ⟨first,hfirst,hsettle,_,hclock⟩ := settles summarizer config ho.mild
    obtain ⟨own,hfile,hown,_⟩ := (ho.inner hfirst).openFile f
    obtain ⟨hmore,hlast⟩ := ih hown
    have hkept := openFile_clock (going config (moves ++ first)) f
    rw [hfile] at hkept
    simp only [openFiles, hsettle, hfile]
    refine ⟨.file first hfirst ?_ hmore, hlast.trans (hkept.trans hclock)⟩
    rw [going_append, hfile]

theorem startNow_asked (c : Call) : ((going config moves).receive (.call c)).1.startNow =
    going config (moves ++ [.ask (.call c), .turn (reached summarizer config none moves).ready.length]) := by
  rw [startNow_eq (s := ((going config moves).receive (.call c)).1) rfl, ← going_append]
  rfl

theorem goOn_ended {s : Analyses} {t : Ticket} {x : Ending Source.Summary} (h : endingOf? s t = some x)
    (timeout : Nat) : goOn s t timeout = s := by
  simp [goOn, h]

theorem goOn_settled {s : Analyses} {t : Ticket} {x : Ending Source.Summary} (h : endingOf? s t = none)
    (hx : endingOf? s.settle t = some x) (timeout : Nat) : goOn s t timeout = s.settle := by
  simp [goOn, h, hx]

theorem goOn_passed {s : Analyses} {t : Ticket} (h : endingOf? s t = none) (hn : endingOf? s.settle t = none)
    (timeout : Nat) :
    goOn s t timeout = (s.settle.move (.ask (.advance (min timeout Engine.longestWait)))).settle := by
  simp [goOn, h, hn, move]

section Await

variable {id : DocumentId} {timeout : Nat} {l : Lifetime Source.Summary} (h : Mild moves)
  (hl : (reached summarizer config none moves).store.find? id = some l) (ht : 0 < timeout)
  (hi : (reached summarizer config none moves).clock = 0 ∨ (reached summarizer config none moves).ready = [])

include h hl ht hi

theorem refused_soon {t : Ticket} {place : Nat} {why : Refusal}
    (hplace : (reached summarizer config none moves).ready.length = place)
    (hticket : (reached summarizer config none moves).tickets = t)
    (hm : Mild (moves ++ asks id timeout :: .turn place :: more))
    (hc : (reached summarizer config none (moves ++ asks id timeout :: .turn place :: more)).clock =
      (reached summarizer config none moves).clock)
    (hx : (t,.refused why) ∈ (reached summarizer config none (moves ++ asks id timeout :: .turn place :: more)).ended) :
    ∃ call v, (summarizer call l.text v).isFailure = true := by
  subst hplace hticket
  have hf := asked_follows h hl timeout more
  rcases hi with hzero | hready
  · refine absurd hx (hf.not_early hm rfl ?_)
    have hlast : 0 < Engine.lastMoment := by decide
    have hlong : 0 < Engine.longestWait := by decide
    rw [hc, hzero]
    simp only [Terms.deadline]
    omega
  · obtain ⟨call,hfail⟩ := refused_late hm hready hl hf rfl rfl rfl (fun hold =>
      Nat.lt_irrefl _ ((orderly_reached summarizer config none moves).ended _ _ hold).1) hx
    exact ⟨call, _, hfail⟩

omit ht hi in
theorem refused_after {first : List Move} {t : Ticket} {place : Nat}
    (hplace : (reached summarizer config none moves).ready.length = place)
    (hticket : (reached summarizer config none moves).tickets = t)
    (hr : (reached summarizer config none (moves ++ asks id timeout :: .turn place :: first)).ready = [])
    (hn : endingOf? (going config (moves ++ asks id timeout :: .turn place :: first)) t = none) (rest : List Move)
    (hm : Mild (moves ++ asks id timeout :: .turn place :: first ++ rest)) (why : Refusal)
    (hx : (t,.refused why) ∈ (reached summarizer config none (moves ++ asks id timeout :: .turn place :: first ++
      rest)).ended) : ∃ call v, (summarizer call l.text v).isFailure = true := by
  subst hplace hticket
  obtain ⟨l',hl',he,htext⟩ := stays_open (mild_append.mp hm).1 hl
  have hf := asked_follows h hl timeout (first ++ rest)
  rw [← List.cons_append, ← List.cons_append, ← List.append_assoc] at hf
  obtain ⟨call,hfail⟩ := refused_late hm hr hl' hf rfl he.generation.symm rfl (fun hold => by
    obtain ⟨y,hy⟩ := endingOf?_of_mem (s := going config _) hold
    simp [hn] at hy) hx
  exact ⟨call, _, htext ▸ hfail⟩

omit ht hi in
theorem ends_late {first : List Move} {t : Ticket} {place : Nat}
    (hplace : (reached summarizer config none moves).ready.length = place)
    (hticket : (reached summarizer config none moves).tickets = t)
    (hm : Mild (moves ++ asks id timeout :: .turn place :: first))
    (hc : (reached summarizer config none (moves ++ asks id timeout :: .turn place :: first)).clock =
      (reached summarizer config none moves).clock) : ∃ rest x, (∀ m ∈ rest, m.isInner = true) ∧
    ((going config (moves ++ asks id timeout :: .turn place :: first)).move
      (.ask (.advance (min timeout Engine.longestWait)))).settle =
        going config (moves ++ asks id timeout :: .turn place :: first ++ rest) ∧
    (reached summarizer config none (moves ++ asks id timeout :: .turn place :: first ++ rest)).ready = [] ∧
    endingOf? (going config (moves ++ asks id timeout :: .turn place :: first ++ rest)) t = some x := by
  subst hplace hticket
  obtain ⟨pass,hpass⟩ : ∃ m : Move, m = .ask (.advance (min timeout Engine.longestWait)) := ⟨_,rfl⟩
  have hmild : Mild (moves ++ asks id timeout :: .turn (reached summarizer config none moves).ready.length ::
      first ++ [pass]) := mild_append.mpr ⟨hm, by simp [Mild, hpass, Move.isMild]⟩
  obtain ⟨rest,hrest,hsettle,hsettled,hclock⟩ := settles summarizer config hmild
  have hlate : (reached summarizer config none (moves ++ asks id timeout ::
      .turn (reached summarizer config none moves).ready.length :: first ++ [pass])).clock =
        min ((reached summarizer config none moves).clock + min timeout Engine.longestWait) Engine.lastMoment := by
    rw [reached_concat, hpass, ← hc]
    rfl
  rw [hlate] at hclock
  have hf := asked_follows h hl timeout (first ++ pass :: rest)
  simp only [List.append_assoc, List.cons_append, List.nil_append] at hsettle hsettled hclock ⊢
  -- Once the clock is past its deadline and all has settled, the wait is over.
  obtain ⟨y,hy⟩ := hf.comes_to_end hsettled hclock.ge
  obtain ⟨x,hx⟩ := endingOf?_of_mem (s := going config _) hy
  refine ⟨pass :: rest, x, ?_, ?_, Engine.isSettled_ready hsettled, hx⟩
  · rw [hpass]
    simpa [Move.isInner] using hrest
  · rw [← hpass, going_concat]
    simpa only [List.append_assoc, List.cons_append, List.nil_append] using hsettle

theorem await_ends : ∃ own x, (∀ m ∈ own, m.isInner = true) ∧
    await (going config moves) id timeout = (going config (moves ++ asks id timeout :: own), some x) ∧
    (∀ why, x = .refused why → ∃ call v, (summarizer call l.text v).isFailure = true) ∧
    ((reached summarizer config none (moves ++ asks id timeout :: own)).clock = 0 ∨
      (reached summarizer config none (moves ++ asks id timeout :: own)).ready = []) := by
  obtain ⟨place,hplace⟩ : ∃ place, (reached summarizer config none moves).ready.length = place := ⟨_,rfl⟩
  obtain ⟨t,hticket⟩ : ∃ t, (reached summarizer config none moves).tickets = t := ⟨_,rfl⟩
  obtain ⟨hready,hclock⟩ := asked_turn summarizer config moves id timeout
  have hawait : await (going config moves) id timeout =
      (goOn (going config (moves ++ [asks id timeout, .turn place])) t timeout,
        endingOf? (goOn (going config (moves ++ [asks id timeout, .turn place])) t timeout) t) := by
    rw [← hplace, ← hticket, ← startNow_asked]
    rfl
  rw [hplace] at hready hclock
  have hbegun : Mild (moves ++ [asks id timeout, .turn place]) :=
    mild_append.mpr ⟨h, by simp [Mild, Move.isMild]⟩
  cases h₁ : endingOf? (going config (moves ++ [asks id timeout, .turn place])) t with
  | some x =>
    refine ⟨[.turn place], x, by simp [Move.isInner], ?_, ?_, ?_⟩
    · rw [hawait, goOn_ended h₁, h₁]
    · rintro why rfl
      exact refused_soon h hl ht hi hplace hticket hbegun hclock (endingOf?_mem h₁)
    · rwa [hready, hclock]
  | none =>
    obtain ⟨first,hfirst,hsettle,hsettled,hclock₁⟩ := settles summarizer config hbegun
    have hmild := mild_append.mpr ⟨hbegun,mild_of_inner hfirst⟩
    rw [hclock] at hclock₁
    simp only [List.append_assoc, List.cons_append, List.nil_append] at hsettle hsettled hclock₁ hmild
    change (going config _).settle = going config _ at hsettle
    have hready₁ := Engine.isSettled_ready hsettled
    cases h₂ : endingOf? (going config (moves ++ asks id timeout :: .turn place :: first)) t with
    | some x =>
      refine ⟨.turn place :: first, x, ?_, ?_, ?_, Or.inr hready₁⟩
      · simpa [Move.isInner] using hfirst
      · rw [hawait, goOn_settled h₁ (hsettle ▸ h₂), hsettle, h₂]
      · rintro why rfl
        exact refused_soon h hl ht hi hplace hticket hmild hclock₁ (endingOf?_mem h₂)
    | none =>
      -- Nothing is left to do, so that only the clock can end the wait.
      obtain ⟨rest,x,hrest,hsettle₂,hready₂,hx⟩ := ends_late h hl hplace hticket hmild hclock₁
      have hgo := goOn_passed h₁ (hsettle ▸ h₂) timeout
      rw [hsettle, hsettle₂] at hgo
      have hlate := refused_after h hl hplace hticket hready₁ h₂ rest
        (mild_append.mpr ⟨hmild,mild_of_inner hrest⟩)
      rw [List.append_assoc] at hgo hready₂ hx hlate
      refine ⟨.turn place :: (first ++ rest), x, ?_, ?_, ?_, Or.inr hready₂⟩
      · simpa [Move.isInner, or_imp, forall_and] using ⟨hfirst,hrest⟩
      · rw [hawait, hgo]
        exact congrArg _ hx
      · rintro why rfl
        exact hlate why (endingOf?_mem hx)

end Await

theorem hopeless_of_failed (h : Mild moves) {id : DocumentId} {l : Lifetime Source.Summary}
    (hl : (reached summarizer config none moves).store.find? id = some l) {call : Nat} {v : Version}
    (hfail : (summarizer call l.text v).isFailure = true) : Hopeless (going config moves) id := by
  intro more hinner
  have hmild := mild_append.mpr ⟨h,mild_of_inner hinner⟩
  obtain ⟨l',hl',_,htext⟩ := stays_open hmild hl
  rw [going_append, going_latest hl']
  refine congrArg Except.ok (not_found hmild hl' fun call' payload hfound => ?_)
  obtain ⟨fault,hs⟩ := summarizer_failed.mp hfail
  rw [← htext, summarizer_found.mp hfound] at hs
  simp at hs

theorem awaitFiles_awaits {timeout : Nat} (ht : 0 < timeout) (now : Time.Instant)
    (opened : List (File × Option Problem)) (h : Mild moves)
    (hi : (reached summarizer config none moves).clock = 0 ∨ (reached summarizer config none moves).ready = [])
    (ho : ∀ p ∈ opened, Holds (reached summarizer config none moves) p) :
    Awaits timeout now (going config moves) opened (awaitFiles (going config moves) timeout now opened).2 := by
  induction opened generalizing moves with
  | nil => exact .done _
  | cons p opened ih =>
    obtain ⟨f,problem⟩ := p
    have hmore := fun p hp => ho p (List.mem_cons_of_mem _ hp)
    cases problem with
    | some problem => exact .failed (ih h hi hmore)
    | none =>
      obtain ⟨l,hl,_⟩ := ho _ List.mem_cons_self rfl
      obtain ⟨own,x,hinner,hawait,hfails,hi'⟩ := await_ends h hl ht hi
      have hmild : Mild (moves ++ asks f.id timeout :: own) :=
        mild_append.mpr ⟨h, List.forall_mem_cons.mpr ⟨rfl,mild_of_inner hinner⟩⟩
      obtain ⟨l',hl',_,htext⟩ := stays_open hmild hl
      have hx : endingOf? (await (going config moves) f.id timeout).1 (going config moves).engine.tickets =
          (await (going config moves) f.id timeout).2 := rfl
      rw [hawait] at hx
      simp only [awaitFiles, hawait]
      refine .heard [] own (by simp) hinner rfl (going_append (asks f.id timeout :: own)).symm hx ?_
        (ih hmild hi' fun p hp => (hmore p hp).stays hmild)
      rintro id atLeast waited rfl
      obtain ⟨call,v,hfail⟩ := hfails _ rfl
      exact hopeless_of_failed hmild hl' (htext ▸ hfail)

variable (config) in
theorem opened_start : Opened config [] [] :=
  ⟨fun _ hm => absurd hm List.not_mem_nil, fun _ => rfl⟩

theorem run_mayReport (config : Config) {timeout : Nat} (ht : 0 < timeout) (now : Time.Instant) (files : List File) :
    MayReport config timeout now files (run config timeout now files).1 := by
  obtain ⟨hopens,hclock⟩ := openFiles_opens files (opened_start config)
  obtain ⟨_,more,hs,hmild,hholds⟩ := hopens.spec rfl (opened_start config)
  refine ⟨_, _, hopens, ?_⟩
  rw [hs] at hclock
  have hawaits := awaitFiles_awaits ht now _ hmild (Or.inl hclock) hholds
  rw [← hs] at hawaits
  exact hawaits

theorem MayReport.spec {timeout : Nat} {now : Time.Instant} {files : List File} {reports : List Report}
    (h : MayReport config timeout now files reports) :
    reports = (opening [] files).map fun p => reportFor timeout now p.1 p.2 := by
  obtain ⟨s,opened,hopens,hawaits⟩ := h
  obtain ⟨rfl,more,hs,hmild,hholds⟩ := hopens.spec rfl (opened_start config)
  exact hawaits.spec hs hmild hholds

theorem MayReport.getElem? {timeout : Nat} {now : Time.Instant} {files : List File} {reports : List Report}
    (h : MayReport config timeout now files reports) (i : Nat) :
    reports[i]? = files[i]?.map fun f => reportFor timeout now f (problem? (files.take i) f) := by
  rw [h.spec, List.getElem?_map, opening_getElem?, Option.map_map]
  rfl

section Disk

variable (disk : String → Except ReadFault ByteArray)

def contents (path : String) : Except ReadFault String :=
  (disk path).bind File.decode

def fileOn (path : String) : File :=
  File.found path path (disk path)

def Held (paths : List String) (id : DocumentId) : Prop :=
  ∃ path ∈ paths, DocumentId.ofPath path = id ∧ ∃ text, contents disk path = .ok text

structure Reported (timeout : Nat) (earlier : List String) (path : String) (r : Report) : Prop where
  document : r.document = .ofPath path
  version : r.version = .baseline
  summarized : ∀ summary, r.payload = some summary ∧ r.error = none ↔
    ∃ text, contents disk path = .ok text ∧ ¬Held disk earlier (.ofPath path) ∧ Source.summarize text = .ok summary
  unreadable : ∀ fault, contents disk path = .error fault →
    r.payload = none ∧ r.error = some (Problem.unreadable path fault).message
  repeated : ∀ text, contents disk path = .ok text → Held disk earlier (.ofPath path) →
    r.payload = none ∧ r.error = some (Refusal.alreadyOpen (.ofPath path)).message
  failed : ∀ text why, contents disk path = .ok text → ¬Held disk earlier (.ofPath path) →
    Source.summarize text = .error why →
      r.payload = none ∧ r.error = some (Refusal.timedOut (.ofPath path) .baseline timeout).message

variable {disk}

theorem fileOn_congr {disk' : String → Except ReadFault ByteArray} {path : String}
    (h : contents disk' path = contents disk path) : fileOn disk' path = fileOn disk path :=
  congrArg (File.mk path (.ofPath path)) h

variable (disk) in
theorem taken_iff (paths : List String) (id : DocumentId) :
    taken (paths.map (fileOn disk)) id = true ↔ Held disk paths id := by
  have hok (c : Except ReadFault String) : c.isOk = true ↔ ∃ text, c = .ok text := by
    cases c <;> simp [Except.isOk, Except.toBool]
  simp only [taken, Held, List.any_map, List.any_eq_true, Function.comp_apply, Bool.and_eq_true,
    decide_eq_true_eq, hok]
  rfl

theorem reportFor_reported (timeout : Nat) (now : Time.Instant) (earlier : List String) (path : String) :
    Reported disk timeout earlier path
      (reportFor timeout now (fileOn disk path) (problem? (earlier.map (fileOn disk)) (fileOn disk path))) := by
  have htaken := taken_iff disk earlier (.ofPath path)
  have hid : (fileOn disk path).id = .ofPath path := rfl
  have hpath : (fileOn disk path).path = path := rfl
  have hcontent : (fileOn disk path).content = contents disk path := rfl
  cases hc : contents disk path with
  | error fault =>
    have hp : problem? (earlier.map (fileOn disk)) (fileOn disk path) = some (.unreadable path fault) := by
      simp only [problem?, hcontent, hc, hpath]
    rw [hp]
    constructor <;> simp [reportFor, Batch.failed, hid, hc]
  | ok text =>
    by_cases hheld : Held disk earlier (.ofPath path)
    · have hp : problem? (earlier.map (fileOn disk)) (fileOn disk path) =
          some (.refused (.alreadyOpen (.ofPath path))) := by
        simp only [problem?, hcontent, hc, hid, htaken.mpr hheld, if_true]
      rw [hp]
      constructor <;> simp [reportFor, Batch.failed, hid, hc, hheld, Problem.message]
    · have hp : problem? (earlier.map (fileOn disk)) (fileOn disk path) = none := by
        simp only [problem?, hcontent, hc, hid, htaken, hheld, if_false]
      have hsummary := summary?_eq (hcontent.trans hc)
      rw [hp]
      cases hs : Source.summarize text with
      | ok summary =>
        rw [hs] at hsummary
        constructor
        case failed =>
          intro _ why ht _ hfail
          cases hc.symm.trans ht
          simp [hs] at hfail
        all_goals simp [reportFor, hsummary, Except.toOption, hid, hc, hheld, hs]
      | error why =>
        rw [hs] at hsummary
        constructor <;> simp [reportFor, Batch.failed, hsummary, Except.toOption, hid, hc, hheld, hs]

theorem MayReport.of_path {timeout : Nat} {now : Time.Instant} {paths : List String} {reports : List Report}
    (h : MayReport config timeout now (paths.map (fileOn disk)) reports) {i : Nat} {path : String}
    (hi : paths[i]? = some path) : reports[i]? = some (reportFor timeout now (fileOn disk path)
      (problem? ((paths.take i).map (fileOn disk)) (fileOn disk path))) := by
  rw [h.getElem?, List.getElem?_map, hi, ← List.map_take]
  rfl

end Disk

theorem reportOutput_code (format : Command.Format) (reports : List Report) :
    (Command.reportOutput format reports).code = 0 ↔ ∀ r ∈ reports, r.error = none := by
  simp [Command.reportOutput]

theorem analyze_output (i : Command.Invocation) (given : Option Nat) (now : Time.Instant) (files : List File) :
    (Command.analyze i config given now files).1 =
      Command.reportOutput i.format (run config (given.getD config.timeout) now files).1 := by
  rw [Command.analyze]

theorem every_path_reported (config : Config) (timeout : Nat) (now : Time.Instant)
    (disk : String → Except ReadFault ByteArray) (paths : List String) :
    let files := paths.map (fileOn disk)
    (0 < timeout → MayReport config timeout now files (run config timeout now files).1) ∧
    (∀ reports, MayReport config timeout now files reports →
      reports.length = paths.length ∧
      (∀ (i : Nat) path, paths[i]? = some path →
        ∃ r, reports[i]? = some r ∧ Reported disk timeout (paths.take i) path r) ∧
      (∀ disk' (paths' : List String) reports', MayReport config timeout now (paths'.map (fileOn disk')) reports' →
        ∀ (i j : Nat) path, paths[i]? = some path → paths'[j]? = some path →
          contents disk' path = contents disk path →
          (Held disk' (paths'.take j) (.ofPath path) ↔ Held disk (paths.take i) (.ofPath path)) →
          reports'[j]? = reports[i]?) ∧
      ∀ format, (Command.reportOutput format reports).code = 0 ↔ ∀ r ∈ reports, r.error = none) ∧
    ∀ invocation given, (Command.analyze invocation config given now files).1.code = 0 ↔
      ∀ r ∈ (run config (given.getD config.timeout) now files).1, r.error = none := by
  intro files
  refine ⟨fun ht => run_mayReport config ht now files, fun reports h => ⟨?_, ?_, ?_, ?_⟩, ?_⟩
  · simp only [h.spec, List.length_map, opening_length, files]
  · exact fun i path hi => ⟨_, h.of_path hi, reportFor_reported timeout now _ path⟩
  · intro disk' paths' reports' h' i j path hi hj hsame hheld
    have htaken : taken ((paths'.take j).map (fileOn disk')) (.ofPath path) =
        taken ((paths.take i).map (fileOn disk)) (.ofPath path) := by
      rw [Bool.eq_iff_iff, taken_iff, taken_iff, hheld]
    rw [h.of_path hi, h'.of_path hj, fileOn_congr hsame, problem?_congr (f := fileOn disk path) htaken]
  · exact fun format => reportOutput_code format reports
  · intro invocation given
    rw [analyze_output, reportOutput_code]

end Batch

end LiveAnalysis
