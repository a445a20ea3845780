import Mathlib.Data.List.DropRight
import LiveAnalysis.Proofs.Calls

namespace LiveAnalysis.Source

/-- A bracket that is open: what stands before it, and the commas behind it that no bracket inside it holds. -/
structure Frame where
  bracket : Char
  before : List Char
  commas : Nat
  deriving DecidableEq, Repr

def lastName (cs : List Char) : List Char :=
  (Text.trimEnd cs).rtakeWhile isNameChar

namespace Frame

def call? (f : Frame) : Option (String × Nat) :=
  if f.bracket = '(' ∧ lastName f.before ≠ [] then some (String.ofList (lastName f.before), f.commas) else none

def countComma : List Frame → List Frame
  | [] => []
  | f :: outer => { f with commas := f.commas + 1 } :: outer

end Frame

structure Parse where
  seen : List Char := []
  frames : List Frame := []
  deriving DecidableEq, Repr

namespace Parse

def read? (p : Parse) (c : Char) : Option Parse :=
  if isOpening c then some ⟨p.seen ++ [c], ⟨c, p.seen, 0⟩ :: p.frames⟩
  else if isClosing c then
    match p.frames with
    | [] => none
    | f :: outer => if f.bracket = opening c then some ⟨p.seen ++ [c], outer⟩ else none
  else some ⟨p.seen ++ [c], if c = ',' then Frame.countComma p.frames else p.frames⟩

end Parse

def parse? (cs : List Char) : Option Parse :=
  cs.foldlM Parse.read? {}

/-- Going back from the end of what was read finds the open brackets, each behind those that it encloses. -/
def Parse.Sound (p : Parse) : Prop :=
  ∀ depth commas, callFrom depth commas p.seen.reverse =
    (p.frames[depth]? >>= Frame.call?).map fun call => (call.1, commas + call.2)

section Back

variable {c : Char} {before : List Char}

theorem lastName_eq (cs : List Char) : lastName cs = ((cs.reverse.dropWhile Text.isBlank).takeWhile isNameChar).reverse := by
  rw [lastName, Text.trimEnd, List.rtakeWhile, List.reverse_reverse]

theorem callFrom_bracket (h : isOpening c = true) (commas : Nat) :
    callFrom 0 commas (c :: before.reverse) = (Frame.call? ⟨c, before, 0⟩).map fun call => (call.1, commas + call.2) := by
  simp only [isOpening, Bool.or_eq_true, decide_eq_true_eq] at h
  rcases h with (rfl | rfl) | rfl
  · rw [callFrom, ← lastName_eq, Frame.call?]
    by_cases hn : lastName before = [] <;> simp [hn]
  · rfl
  · rfl

end Back

namespace Parse

variable {p p' : Parse} {c : Char}

theorem read?_cases (h : p.read? c = some p') :
    (isOpening c = true ∧ p' = ⟨p.seen ++ [c], ⟨c, p.seen, 0⟩ :: p.frames⟩) ∨
    (isClosing c = true ∧ ∃ f outer, p.frames = f :: outer ∧ f.bracket = opening c ∧ p' = ⟨p.seen ++ [c], outer⟩) ∨
    (c = ',' ∧ p' = ⟨p.seen ++ [c], Frame.countComma p.frames⟩) ∨
    (isBracket c = false ∧ c ≠ ',' ∧ p' = ⟨p.seen ++ [c], p.frames⟩) := by
  unfold read? at h
  by_cases ho : isOpening c = true
  · rw [if_pos ho] at h
    exact .inl ⟨ho, (Option.some.inj h).symm⟩
  rw [if_neg ho] at h
  by_cases hc : isClosing c = true
  · rw [if_pos hc] at h
    cases hf : p.frames with
    | nil =>
      rw [hf] at h
      cases h
    | cons f outer =>
      simp only [hf, Option.ite_none_right_eq_some, Option.some.injEq] at h
      exact .inr (.inl ⟨hc, f, outer, rfl, h.1, h.2.symm⟩)
  rw [if_neg hc] at h
  by_cases hcomma : c = ','
  · rw [if_pos hcomma] at h
    exact .inr (.inr (.inl ⟨hcomma, (Option.some.inj h).symm⟩))
  · rw [if_neg hcomma] at h
    have hplain : isBracket c = false := by simp [isBracket, ho, hc]
    exact .inr (.inr (.inr ⟨hplain, hcomma, (Option.some.inj h).symm⟩))

theorem seen_read (h : p.read? c = some p') : p'.seen = p.seen ++ [c] := by
  rcases read?_cases h with ⟨-,rfl⟩ | ⟨-,_,_,-,-,rfl⟩ | ⟨-,rfl⟩ | ⟨-,-,rfl⟩ <;> rfl

theorem Sound.read (hp : p.Sound) (h : p.read? c = some p') : p'.Sound := by
  intro depth commas
  rw [seen_read h, List.reverse_concat]
  rcases read?_cases h with ⟨ho,rfl⟩ | ⟨hc,f,outer,hf,-,rfl⟩ | ⟨rfl,rfl⟩ | ⟨hplain,hcomma,rfl⟩
  · cases depth with
    | zero => exact callFrom_bracket ho commas
    | succ depth =>
      rw [callFrom_opening ho]
      exact hp depth commas
  · rw [callFrom_closing hc, hp (depth + 1) commas, hf]
    rfl
  · cases depth with
    -- the comma counts for the innermost bracket, which going back looks for with one comma more
    | zero =>
      rw [callFrom_comma, hp 0 (commas + 1)]
      cases p.frames with
      | nil => rfl
      | cons f outer =>
        by_cases hcall : f.bracket = '(' ∧ lastName f.before ≠ []
        · simp [Frame.countComma, Frame.call?, hcall]
          omega
        · simp [Frame.countComma, Frame.call?, hcall]
    | succ depth =>
      rw [callFrom_plain rfl (by simp), hp (depth + 1) commas]
      cases p.frames <;> rfl
  · rw [callFrom_plain hplain fun h => hcomma h.1]
    exact hp depth commas

theorem Sound.run {cs : List Char} (hp : p.Sound) (h : cs.foldlM read? p = some p') :
    p'.Sound ∧ p'.seen = p.seen ++ cs := by
  induction cs generalizing p with
  | nil =>
    cases h
    exact ⟨hp, (List.append_nil _).symm⟩
  | cons c cs ih =>
    rw [List.foldlM_cons] at h
    obtain ⟨next,hnext,hrest⟩ := Option.bind_eq_some_iff.mp h
    obtain ⟨hsound,hseen⟩ := ih (hp.read hnext) hrest
    exact ⟨hsound, by rw [hseen, seen_read hnext, List.append_assoc, List.singleton_append]⟩

def Agrees (stack : Open) (p : Parse) : Prop :=
  stack.map Prod.fst = p.frames.map Frame.bracket

theorem Agrees.read {stack stack' : Open} {q : Char × Nat} (ha : Agrees stack p) (h : nestOne stack q = .ok stack') :
    ∃ p', p.read? q.1 = some p' ∧ Agrees stack' p' := by
  rcases nestOne_cases stack q with ⟨ho,he⟩ | ⟨hp,he⟩ | ⟨hc,number,below,rfl,he⟩ | ⟨-,he⟩ <;> cases h.symm.trans he
  · exact ⟨_, if_pos ho, congrArg (q.1 :: ·) ha⟩
  · obtain ⟨ho,hc⟩ := Bool.or_eq_false_iff.mp hp
    refine ⟨_, by rw [read?, if_neg (by simp [ho]), if_neg (by simp [hc])], ?_⟩
    split
    · rw [Agrees, ha]
      cases p.frames <;> rfl
    · exact ha
  · obtain ⟨f,outer,hframes,hb,houter⟩ := List.map_eq_cons_iff.mp ha.symm
    refine ⟨⟨p.seen ++ [q.1], outer⟩, ?_, houter.symm⟩
    simp [read?, not_isOpening hc, hc, hframes, hb]

theorem Agrees.run {stack stack' : Open} {word : List (Char × Nat)} (ha : Agrees stack p)
    (h : word.foldlM nestOne stack = .ok stack') : ∃ p', (word.map Prod.fst).foldlM read? p = some p' ∧ Agrees stack' p' := by
  induction word generalizing stack p with
  | nil =>
    cases h
    exact ⟨p, rfl, ha⟩
  | cons q word ih =>
    cases hq : nestOne stack q with
    | error fault =>
      rw [List.foldlM_cons, hq] at h
      cases h
    | ok next =>
      rw [foldlM_cons_ok hq] at h
      obtain ⟨p₁,hread,hagree⟩ := ha.read hq
      obtain ⟨p₂,hrest,hlast⟩ := ih hagree h
      refine ⟨p₂, ?_, hlast⟩
      rw [List.map_cons, List.foldlM_cons, hread]
      exact hrest

end Parse

theorem parse?_of_completes {cs : List Char} (h : Completes cs) : ∃ p, parse? cs = some p := by
  have hchars : (cs.map (·,0)).map Prod.fst = cs := by simp [Function.comp_def]
  rw [← hchars] at h
  obtain ⟨stack,hstack⟩ := completes_iff.mp h
  have hnone : Parse.Agrees [] {} := rfl
  obtain ⟨p,hp,-⟩ := hnone.run hstack
  rw [hchars] at hp
  exact ⟨p,hp⟩

theorem callFrom_parse {cs : List Char} {p : Parse} (h : parse? cs = some p) :
    callFrom 0 0 cs.reverse = p.frames.head? >>= Frame.call? := by
  have hstart : Parse.Sound {} := fun _ _ => rfl
  obtain ⟨hsound,hseen⟩ := hstart.run h
  have hback := hsound 0 0
  rw [hseen] at hback
  rw [List.head?_eq_getElem?]
  simpa using hback

theorem callFrom_le {depth commas : Nat} {before : List Char} {call : String × Nat}
    (h : callFrom depth commas before = some call) : call.2 ≤ commas + before.length := by
  fun_induction callFrom depth commas before with
  | case1 => cases h
  | case2 depth commas c before _ ih => exact Nat.le_succ_of_le (ih h)
  | case3 depth commas c before _ _ _ ih => exact Nat.le_succ_of_le (ih h)
  | case4 => cases h
  | case5 =>
    cases h
    exact Nat.le_add_right _ _
  | case6 => cases h
  | case7 depth commas c before _ _ _ ih =>
    have hrest := ih h
    rw [List.length_cons]
    omega
  | case8 depth commas c before _ _ _ ih => exact Nat.le_succ_of_le (ih h)

theorem callAround?_eq {text : String} {number : Nat} {line : List Char}
    (h : (Text.lines text.toList)[number]? = some line) (column : Nat) :
    callAround? text number column = callFrom 0 0 (line.take column).reverse := by
  rw [callAround?, backwards?, h]
  rfl

theorem call_around_innermost (text : String) (number column : Nat) :
    ((Text.lines text.toList)[number]? = none → callAround? text number column = none) ∧
    ∀ line, (Text.lines text.toList)[number]? = some line →
      (line.length ≤ column → callAround? text number column = callAround? text number line.length) ∧
      (∀ call ∈ callAround? text number column, call.2 ≤ line.length) ∧
      (Completes (line.take column) → ∃ p, parse? (line.take column) = some p ∧
        callAround? text number column = p.frames.head? >>= Frame.call?) := by
  refine ⟨fun hnone => ?_, fun line hline => ⟨fun hlong => ?_, fun call hcall => ?_, fun hc => ?_⟩⟩
  · rw [callAround?, backwards?, hnone]
    rfl
  · rw [callAround?_eq hline, callAround?_eq hline, List.take_of_length_le hlong, List.take_length]
  · rw [callAround?_eq hline] at hcall
    have hle := callFrom_le hcall
    rw [List.length_reverse, List.length_take] at hle
    omega
  · obtain ⟨p,hp⟩ := parse?_of_completes hc
    exact ⟨p, hp, (callAround?_eq hline column).trans (callFrom_parse hp)⟩

theorem call_around_innermost_nested :
    let text := "f (g(1, 2), [3, 4], "
    (Text.lines text.toList)[0]? = some text.toList ∧ Completes (text.toList.take 40) ∧
      callAround? text 0 40 = some ("f",2) ∧ callAround? text 1 0 = none := by
  intro text
  have hline : (Text.lines text.toList)[0]? = some text.toList := by decide +kernel
  have hread : ((text.toList.take 40).map (·,0)).foldlM nestOne [] = .ok [('(',0)] := by decide +kernel
  have hcompletes := completes_iff.mpr ⟨_,hread⟩
  rw [List.map_map, Function.comp_def, List.map_id'] at hcompletes
  obtain ⟨p,hp,hcall⟩ := ((call_around_innermost text 0 40).2 _ hline).2.2 hcompletes
  have hparse : parse? (text.toList.take 40) = some ⟨text.toList, [⟨'(', ['f',' '], 2⟩]⟩ := by decide +kernel
  cases hparse.symm.trans hp
  exact ⟨hline, hcompletes, hcall.trans (by decide +kernel), (call_around_innermost text 1 0).1 (by decide +kernel)⟩

end LiveAnalysis.Source
