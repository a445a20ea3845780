import LiveAnalysis.Proofs.Provenance
import LiveAnalysis.Proofs.Waits

namespace LiveAnalysis

variable {P : Type}

namespace Engine

/-! The text that a query is answered with, where `had` tells the texts that were there. -/

structure Fits (had : Nat → Version → String → Prop) (e : Engine P) (l : Lifetime P) (f : Finding P)
    (text : String) : Prop where
  kept : l ∈ e.store.lifetimes
  latest : l.slot.latest = some f
  origin : had l.generation f.version text ∨
    ∃ l', e.store.find? l.id = some l' ∧ l'.version = f.version ∧ l'.text = text

inductive Answers (had : Nat → Version → String → Prop) (id : DocumentId) (t : Ticket)
    (e e' : Engine P) : Prop where
  | waits {v text n} (hu : e'.activity? t = some (.watch v)) (hg : v.goal = .paired text n)
    (hid : v.id = id) (hk : had v.generation v.atLeast text) : Answers had id t e e'
  | ends {x} (hu : e'.activity? t = none) (he : (t,x) ∈ e'.ended)
    (hf : ∀ f text, x = .paired f text → ∃ l, l.id = id ∧ Fits had e l f text) : Answers had id t e e'

variable {had : Nat → Version → String → Prop} {id : DocumentId} {t : Ticket} {e : Engine P}

theorem outcome?_found {v : Watch} {f : Finding P} (h : e.outcome? v = some (.ok f)) :
    ∃ l, e.store.ofGeneration? v.generation = some l ∧ l.slot.latest = some f := by
  unfold outcome? slot at h
  cases hl : e.store.ofGeneration? v.generation with
  | none =>
    rw [hl] at h
    simp [Slot.answer?, Slot.satisfying?] at h
  | some l =>
    rw [hl] at h
    refine ⟨l, rfl, ?_⟩
    split at h
    · rename_i answer ha
      cases h
      rcases l.slot.answer?_cases v.id v.atLeast with ⟨g,hg,_,hs⟩ | ⟨_,_,hs⟩ | ⟨_,_,hs⟩
      · cases ha.symm.trans hs
        exact hg
      · simp [ha] at hs
      · simp [ha] at hs
    · split at h
      · simp at h
      · split at h
        · simp at h
        · split at h <;> simp at h

theorem answers_finish {x : Ending P}
    (hf : ∀ f text, x = .paired f text → ∃ l, l.id = id ∧ Fits had e l f text) :
    Answers had id t e (e.finish t x) := by
  refine .ends ?_ (List.mem_append_right _ (List.mem_singleton.mpr rfl)) hf
  simp [activity?_finish]

theorem answers_refused (why : Refusal) : Answers had id t e (e.finish t (.refused why)) :=
  answers_finish (by simp)

theorem answers_set {v : Watch} {text : String} {n : Nat} {a : Activity P}
    (hu : e.activity? t = some a) (hg : v.goal = .paired text n) (hid : v.id = id)
    (hk : had v.generation v.atLeast text) : Answers had id t e (e.set t (.watch v)) := by
  refine .waits ?_ hg hid hk
  rw [activity?_set, if_pos rfl, hu]
  rfl

theorem answers_paired {v : Watch} {f : Finding P} {text text' : String} {version : Version}
    {l : Lifetime P} (hk : had v.generation v.atLeast text) (hid : v.id = id)
    (hl : l ∈ e.store.lifetimes) (hlid : l.id = id) (hg : l.generation = v.generation)
    (hf : l.slot.latest = some f)
    (hc : (if f.version = v.atLeast then .ok (text,v.atLeast)
      else (e.store.get v.id).map fun l => (l.text,l.version)) =
        (.ok (text',version) : Except Refusal (String × Version))) (hver : f.version = version) :
    Answers had id t e (e.finish t (.paired f text')) := by
  refine answers_finish ?_
  rintro _ _ ⟨⟩
  refine ⟨l, hlid, hl, hf, ?_⟩
  rcases current_ok.mp hc with ⟨heq,rfl,_⟩ | ⟨_,l',hl',rfl,rfl⟩
  · exact Or.inl (heq ▸ hg ▸ hk)
  · exact Or.inr ⟨l', by rw [hlid, ← hid]; exact hl', hver.symm, rfl⟩

section Turn

variable {a : Activity P} (hu : e.activity? t = some a) (hv : e.store.Valid)
  (hd : ∀ l ∈ e.store.lifetimes, had l.generation l.version l.text)

include hu hv hd

theorem answers_pair (n : Nat) (v : Watch) (text : String) (f : Finding P) {l : Lifetime P}
    (hk : had v.generation v.atLeast text) (hid : v.id = id) (hl : l ∈ e.store.lifetimes)
    (hlid : l.id = id) (hg : l.generation = v.generation) (hf : l.slot.latest = some f) :
    Answers had id t e (e.pair t v text n f) := by
  induction n generalizing v text f l with
  | zero =>
    unfold pair
    dsimp only
    split
    · exact answers_refused _
    · split
      · exact answers_paired hk hid hl hlid hg hf ‹_› ‹_›
      · exact answers_finish (by simp)
  | succ n ih =>
    unfold pair
    dsimp only
    split
    · exact answers_refused _
    · rename_i text' version hc
      split
      · exact answers_paired hk hid hl hlid hg hf hc ‹_›
      · rename_i hne
        split
        · exact answers_refused _
        · rename_i v' hv'
          rcases current_ok.mp hc with ⟨heq,_,rfl⟩ | ⟨_,k,hk',rfl,rfl⟩
          · exact absurd heq hne
          obtain ⟨_,l',hl',rfl⟩ := newWatch_ok.mp hv'
          cases hk'.symm.trans hl'
          obtain ⟨hm,hkid,_⟩ := Store.find?_spec hl'
          split
          · exact answers_set hu rfl hid (hd k hm)
          · exact answers_refused _
          · rename_i f' hout
            obtain ⟨l',hl',hf'⟩ := outcome?_found hout
            cases (hv.ofGeneration?_eq hm).symm.trans hl'
            exact ih _ _ _ (hd k hm) hid hm (hkid.trans hid) rfl hf'

theorem answers_watchTurn {v : Watch} {text : String} {n : Nat} {l : Lifetime P}
    (hgoal : v.goal = .paired text n) (hk : had v.generation v.atLeast text) (hid : v.id = id)
    (hl : e.store.ofGeneration? v.generation = some l) (hlid : l.id = id) :
    Answers had id t e (e.watchTurn t v) := by
  unfold watchTurn
  split
  · exact answers_set hu hgoal hid hk
  · exact answers_refused _
  · rename_i f hout
    obtain ⟨l',hl',hf⟩ := outcome?_found hout
    cases hl.symm.trans hl'
    obtain ⟨hm,hg⟩ := Store.ofGeneration?_spec hl
    rw [hgoal]
    exact answers_pair hu hv hd n v text f hk hid hm hlid hg hf

theorem answers_query (timeout : Nat) : Answers had id t e (e.callTurn t (.query id timeout)) := by
  simp only [callTurn]
  split
  · exact answers_refused _
  · rename_i l hget
    have hl := Store.get_ok.mp hget
    obtain ⟨hm,hlid,_⟩ := Store.find?_spec hl
    unfold watchFrom
    split
    · exact answers_refused _
    · rename_i v hnew
      obtain ⟨_,l',hl',rfl⟩ := newWatch_ok.mp hnew
      cases hl.symm.trans hl'
      exact answers_watchTurn hu hv hd rfl (hd l hm) rfl (hv.ofGeneration?_eq hm) hlid

end Turn

end Engine

namespace Service

open Engine

section Run

variable (analyzer : Analyzer P) (config : Config) (gate : Option Gate)

inductive Queried (moves : List Move) (t : Ticket) (id : DocumentId) : Prop where
  | asked {timeout} (hu : (reached analyzer config gate moves).activity? t =
      some (.call (.query id timeout)))
  | waiting {v text n} (hu : (reached analyzer config gate moves).activity? t = some (.watch v))
    (hg : v.goal = .paired text n) (hid : v.id = id)
    (hk : Had analyzer config gate moves v.generation v.atLeast text)
  | ended {x earlier} (hu : (reached analyzer config gate moves).activity? t = none)
    (hx : (t,x) ∈ (reached analyzer config gate moves).ended) (hs : ∃ later, moves = earlier ++ later)
    (hf : ∀ f text, x = .paired f text → ∃ l, l.id = id ∧
      Fits (Had analyzer config gate earlier) (reached analyzer config gate earlier) l f text)

variable {analyzer config gate} {moves : List Move} {t : Ticket} {id : DocumentId}

theorem queried_of_answers {m : Move} {ready : List Ticket}
    (h : Answers (Had analyzer config gate moves) id t
      { reached analyzer config gate moves with ready }
      (reached analyzer config gate (moves ++ [m]))) :
    Queried analyzer config gate (moves ++ [m]) t id := by
  cases h with
  | waits hu hg hid hk => exact .waiting hu hg hid ((had_concat analyzer config gate).mpr (Or.inl hk))
  | ends hu hx hf =>
    refine .ended hu hx ⟨[m],rfl⟩ ?_
    intro f text hpaired
    obtain ⟨l,hlid,hkept,hlatest,horigin⟩ := hf f text hpaired
    exact ⟨l, hlid, hkept, hlatest, horigin⟩

theorem Queried.concat (h : Queried analyzer config gate moves t id) (m : Move) :
    Queried analyzer config gate (moves ++ [m]) t id := by
  have ho := orderly_reached analyzer config gate moves
  have hd := (sourced_reached analyzer config gate moves).texts
  have hm := moved ⟨analyzer, config.updates⟩ ho m.engine
  rw [← reached_concat] at hm
  cases h with
  | @asked timeout hu =>
    by_cases ht : (reached analyzer config gate moves).turning? m.engine = some t
    · obtain ⟨ready,he⟩ := move_turning ⟨analyzer, config.updates⟩ ht
      have hu' : ({ reached analyzer config gate moves with ready } : Engine P).activity? t = _ := hu
      have h : Answers _ id t _ _ := answers_query hu' ho.valid hd timeout
      apply queried_of_answers
      rw [reached_concat, he]
      simpa only [turn, hu'] using h
    · exact .asked (hm.still_waits hu rfl ht)
  | waiting hu hg hid hk =>
    by_cases ht : (reached analyzer config gate moves).turning? m.engine = some t
    · obtain ⟨ready,he⟩ := move_turning ⟨analyzer, config.updates⟩ ht
      have hu' : ({ reached analyzer config gate moves with ready } : Engine P).activity? t = _ := hu
      obtain ⟨l,hl,hlid⟩ := ho.watched t _ hu
      have h := answers_watchTurn hu' ho.valid hd hg hk hid hl (hlid.trans hid)
      apply queried_of_answers
      rw [reached_concat, he]
      simpa only [turn, hu'] using h
    · exact .waiting (hm.still_waits hu rfl ht) hg hid
        ((had_concat analyzer config gate).mpr (Or.inl hk))
  | ended hu hx hs hf =>
    obtain ⟨hu',hx'⟩ := hm.still_ended ho hx
    obtain ⟨later,hs⟩ := hs
    exact .ended hu' hx' ⟨later ++ [m], by rw [hs]; simp⟩ hf

theorem Queried.append (h : Queried analyzer config gate moves t id) (more : List Move) :
    Queried analyzer config gate (moves ++ more) t id := by
  induction more using List.reverseRecOn with
  | nil => exact (List.append_nil moves).symm ▸ h
  | append_singleton more m ih =>
    rw [← List.append_assoc]
    exact ih.concat m

end Run

theorem query_text (analyzer : Analyzer P) (config : Config) (gate : Option Gate)
    (before more : List Move) (t : Ticket) (id : DocumentId) (timeout : Nat)
    (hc : (reached analyzer config gate before).activity? t = some (.call (.query id timeout)))
    (f : Finding P) (text : String)
    (hx : (t,.paired f text) ∈ (reached analyzer config gate (before ++ more)).ended) :
    ∃ earlier later, before ++ more = earlier ++ later ∧
      ∃ l ∈ (reached analyzer config gate earlier).store.lifetimes, l.id = id ∧
        l.slot.latest = some f ∧ ∃ call s, (call,s) ∈ consulted analyzer config gate earlier ∧
          s.id = id ∧ s.generation = l.generation ∧ s.version = f.version ∧
          analyzer call s.text s.version = .found f.payload ∧
          (text = s.text ∨ l.isOpen = false ∧
            ∃ l', (reached analyzer config gate earlier).store.find? id = some l' ∧
              l'.version = f.version ∧ l'.text = text) := by
  have hqueried := (Queried.asked hc).append more
  have ho := orderly_reached analyzer config gate (before ++ more)
  have hnone := (ho.ended t _ hx).2
  cases hqueried with
  | asked hu => simp [hu] at hnone
  | waiting hu => simp [hu] at hnone
  | @ended x earlier _ hx' hs hf =>
    cases List.inj_on_of_nodup_map ho.once hx hx' rfl
    obtain ⟨later,hs⟩ := hs
    obtain ⟨l,hlid,hl,hlatest,horigin⟩ := hf f text rfl
    have hearlier := orderly_reached analyzer config gate earlier
    have hsourced := sourced_reached analyzer config gate earlier
    obtain ⟨hfid,_,call,s,hcomp⟩ := hsourced.findings l hl f hlatest
    refine ⟨earlier, later, hs, l, hl, hlid, hlatest, call, s, hcomp.called, ?_, hcomp.same_generation,
      hcomp.same_version, hcomp.found, ?_⟩
    · exact hcomp.same_id.trans (hfid.trans hlid)
    have hown : Had analyzer config gate earlier l.generation f.version text → text = s.text :=
      fun h => had_unique (blank_start analyzer config gate).orderly h hcomp.had_text
    rcases horigin with h | ⟨l',hl',hver,rfl⟩
    · exact Or.inl (hown h)
    cases hopen : l.isOpen with
    | true =>
      cases (hearlier.valid.find?_eq hl hopen).symm.trans hl'
      exact Or.inl (hown (hver ▸ hsourced.texts l hl))
    | false => exact Or.inr ⟨rfl, l', hlid ▸ hl', hver, rfl⟩

theorem query_text_reopened :
    let moves : List Move := [.ask (.openDocument ⟨"file:///d"⟩ "a"),
      .ask (.call (.query ⟨"file:///d"⟩ 100)), .turn 1, .ask (.change ⟨"file:///d"⟩ "b"),
      .turn 0, .turn 0, .turn 0, .ask (.close ⟨"file:///d"⟩),
      .ask (.openDocument ⟨"file:///d"⟩ "c"), .ask (.change ⟨"file:///d"⟩ "d"), .turn 0]
    (1,.paired ⟨⟨"file:///d"⟩,⟨1⟩,"b"⟩ "d") ∈
      (reached (fun _ text _ => .found text) {} none moves).ended := by
  decide +kernel

end Service

end LiveAnalysis
