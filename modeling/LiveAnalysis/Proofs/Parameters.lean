import Mathlib.Data.List.TakeWhile
import LiveAnalysis.Proofs.Summaries

namespace LiveAnalysis.Source

inductive Nests : List Char → Prop where
  | nil : Nests []
  | plain (c : Char) (rest : List Char) : isOpening c = false → isClosing c = false → Nests rest → Nests (c :: rest)
  | pair (b : Char) (inside : List Char) (c : Char) (rest : List Char) : isOpening b = true → isClosing c = true →
      opening c = b → Nests inside → Nests rest → Nests (b :: (inside ++ c :: rest))

structure Declares (line before inside behind : List Char) : Prop where
  line : line = before ++ '(' :: (inside ++ ')' :: behind)
  first : '(' ∉ before
  nests : Nests inside

structure Reaches (line before taken behind : List Char) : Prop where
  line : line = before ++ '(' :: (taken ++ ')' :: behind)
  first : '(' ∉ before
  last : ')' ∉ behind

/-- The pieces between the commas that no bracket holds, inside so many open ones. -/
def outerPieces : Nat → List Char → List (List Char)
  | _, [] => [[]]
  | depth, c :: rest =>
    if depth = 0 ∧ c = ',' then [] :: outerPieces 0 rest
    else
      match outerPieces (if isOpening c then depth + 1 else if isClosing c then depth - 1 else depth) rest with
      | [] => [[c]]
      | piece :: more => (c :: piece) :: more

def declaredParameters (inside : List Char) : List String :=
  (((outerPieces 0 inside).map parameterName).filter (!·.isEmpty)).map String.ofList

theorem not_isOpening {c : Char} (h : isClosing c = true) : isOpening c = false := by
  simp only [isClosing, Bool.or_eq_true, decide_eq_true_eq] at h
  rcases h with (rfl | rfl) | rfl <;> decide

theorem Nests.not_closing {c : Char} {rest : List Char} (h : Nests (c :: rest)) : isClosing c = false := by
  cases h with
  | plain _ _ _ hc => exact hc
  | pair _ _ _ _ hb => exact eq_false_of_ne_true fun hc => by simp [not_isOpening hc] at hb

theorem Nests.unique {inside inside' : List Char} (h : Nests inside) (h' : Nests inside') {c c' : Char}
    (hc : isClosing c = true) (hc' : isClosing c' = true) {behind behind' : List Char}
    (he : inside ++ c :: behind = inside' ++ c' :: behind') : inside = inside' ∧ c = c' ∧ behind = behind' := by
  induction h generalizing inside' c c' behind behind' with
  | nil =>
    cases inside' with
    | nil => exact ⟨rfl, List.cons.inj he⟩
    | cons d inside' =>
      obtain ⟨rfl,-⟩ := List.cons.inj he
      simp [h'.not_closing] at hc
  | plain d rest ho hd _ ih =>
    cases h' with
    | nil =>
      obtain ⟨rfl,-⟩ := List.cons.inj he
      simp [hd] at hc'
    | plain _ rest' _ _ hrest' =>
      obtain ⟨rfl,htail⟩ := List.cons.inj he
      obtain ⟨rfl,hsame⟩ := ih hrest' hc hc' htail
      exact ⟨rfl,hsame⟩
    | pair _ _ _ _ hb =>
      obtain ⟨rfl,-⟩ := List.cons.inj he
      simp [ho] at hb
  | pair b inner e rest hb he' _ _ _ ihinner ihrest =>
    cases h' with
    | nil =>
      obtain ⟨rfl,-⟩ := List.cons.inj he
      simp [not_isOpening hc'] at hb
    | plain _ _ ho =>
      obtain ⟨rfl,-⟩ := List.cons.inj he
      simp [hb] at ho
    | pair _ inner' e' rest' _ hclose' _ hinner' hrest' =>
      simp only [List.cons_append, List.append_assoc] at he
      obtain ⟨rfl,htail⟩ := List.cons.inj he
      obtain ⟨rfl,rfl,hbehind⟩ := ihinner hinner' he' hclose' htail
      obtain ⟨rfl,hsame⟩ := ihrest hrest' hc hc' hbehind
      exact ⟨rfl,hsame⟩

theorem dropWhile_first {c : Char} {before rest : List Char} (h : c ∉ before) :
    (before ++ c :: rest).dropWhile (· ≠ c) = c :: rest := by
  rw [List.dropWhile_append_of_pos]
  · simp
  · intro x hx
    simpa using fun he : x = c => h (he ▸ hx)

theorem of_dropWhile {c d : Char} {cs rest : List Char} (h : cs.dropWhile (· ≠ c) = d :: rest) :
    d = c ∧ ∃ before, cs = before ++ c :: rest ∧ c ∉ before := by
  have hd := List.head?_dropWhile_not (· ≠ c) cs
  have hsplit := cs.takeWhile_append_dropWhile (p := (· ≠ c))
  rw [h] at hd hsplit
  obtain rfl : d = c := by simpa using hd
  exact ⟨rfl, _, hsplit.symm, fun hc => by simpa using List.mem_takeWhile_imp hc⟩

theorem behind_first {before rest before' rest' : List Char} (h : '(' ∉ before) (h' : '(' ∉ before')
    (he : before ++ '(' :: rest = before' ++ '(' :: rest') : rest = rest' := by
  have hsame := congrArg (List.dropWhile (· ≠ '(')) he
  rw [dropWhile_first h, dropWhile_first h'] at hsame
  exact (List.cons.inj hsame).2

theorem Declares.unique {line before inside behind before' inside' behind' : List Char}
    (h : Declares line before inside behind) (h' : Declares line before' inside' behind') : inside = inside' := by
  have hrest := behind_first h.first h'.first (h.line.symm.trans h'.line)
  exact (h.nests.unique h'.nests (by decide) (by decide) hrest).1

theorem dropWhile_trimStart (line : List Char) :
    (Text.trimStart line).dropWhile (· ≠ '(') = line.dropWhile (· ≠ '(') := by
  induction line with
  | nil => rfl
  | cons c line ih =>
    by_cases hb : Text.isBlank c = true
    · have hc : c ≠ '(' := by
        rintro rfl
        exact absurd hb (by decide)
      rw [Text.trimStart, List.dropWhile_cons_of_pos hb, List.dropWhile_cons_of_pos (by simpa using hc)]
      exact ih
    · simp [Text.trimStart, hb]

theorem beforeLast?_eq_some {c : Char} {cs front : List Char} :
    beforeLast? c cs = some front ↔ ∃ behind, cs = front ++ c :: behind ∧ c ∉ behind := by
  unfold beforeLast?
  constructor
  · intro h
    cases hd : cs.reverse.dropWhile (· ≠ c) with
    | nil =>
      rw [hd] at h
      cases h
    | cons d rest =>
      obtain ⟨rfl,behind,hreverse,hbehind⟩ := of_dropWhile hd
      rw [hd] at h
      cases h
      exact ⟨behind.reverse, by simpa using congrArg List.reverse hreverse, by simpa using hbehind⟩
  · rintro ⟨behind,rfl,h⟩
    have hreverse : (front ++ c :: behind).reverse = behind.reverse ++ c :: front.reverse := by simp
    rw [hreverse, dropWhile_first (by simpa using h)]
    simp

theorem declared?_some {number column : Nat} {line : List Char} {names : List Token} {f : Function}
    (h : declared? number line names = some (column,f)) : f.line = number ∧
      ∃ before taken behind, Reaches line before taken behind ∧ f.parameters = parameterNames taken := by
  unfold declared? at h
  simp only [Option.bind_eq_bind, Option.bind_eq_some_iff, dropWhile_trimStart] at h
  obtain ⟨_,-,name,-,taken,htaken,he⟩ := h
  cases he
  obtain ⟨behind,hrest,hlast⟩ := beforeLast?_eq_some.mp htaken
  cases hd : line.dropWhile (· ≠ '(') with
  | nil =>
    rw [hd] at hrest
    simp at hrest
  | cons c rest =>
    obtain ⟨rfl,before,hline,hfirst⟩ := of_dropWhile hd
    rw [hd, List.tail_cons] at hrest
    exact ⟨rfl, before, taken, behind, ⟨hrest ▸ hline, hfirst, hlast⟩, rfl⟩

theorem Reaches.eq_inside {line before taken behind before' inside behind' : List Char}
    (h : Reaches line before taken behind) (h' : Declares line before' inside behind') (hlast : ')' ∉ behind') :
    taken = inside := by
  have hrest := behind_first h.first h'.first (h.line.symm.trans h'.line)
  have htaken : beforeLast? ')' (taken ++ ')' :: behind) = some taken :=
    beforeLast?_eq_some.mpr ⟨behind, rfl, h.last⟩
  have hinside := beforeLast?_eq_some.mpr ⟨behind', hrest, hlast⟩
  exact Option.some.inj (htaken.symm.trans hinside)

theorem split_ne_nil (sep : Char) (cs : List Char) : Text.split sep cs ≠ [] := by
  unfold Text.split
  split
  · nofun
  · split
    · nofun
    · split <;> nofun

theorem outerPieces_ne_nil (depth : Nat) (cs : List Char) : outerPieces depth cs ≠ [] := by
  unfold outerPieces
  split
  · nofun
  · split
    · nofun
    · split <;> nofun

theorem split_of_not_mem {sep : Char} {cs : List Char} (h : sep ∉ cs) : Text.split sep cs = [cs] := by
  induction cs with
  | nil => rfl
  | cons c cs ih =>
    rw [List.mem_cons, not_or] at h
    rw [Text.split, if_neg (Ne.symm h.1), ih h.2]

theorem split_outerPieces (depth : Nat) (cs : List Char) :
    Text.split ',' cs = (outerPieces depth cs).flatMap (Text.split ',') := by
  induction cs generalizing depth with
  | nil => rfl
  | cons c cs ih =>
    by_cases hc : depth = 0 ∧ c = ','
    · rw [outerPieces, if_pos hc, Text.split, if_pos hc.2, ih 0]
      rfl
    · rw [outerPieces, if_neg hc]
      have hdepth := ih (if isOpening c then depth + 1 else if isClosing c then depth - 1 else depth)
      obtain ⟨piece,more,hpieces⟩ := List.exists_cons_of_ne_nil
        (outerPieces_ne_nil (if isOpening c then depth + 1 else if isClosing c then depth - 1 else depth) cs)
      obtain ⟨first,rest,hfirst⟩ := List.exists_cons_of_ne_nil (split_ne_nil ',' piece)
      rw [hpieces, List.flatMap_cons, hfirst, List.cons_append] at hdepth
      rw [hpieces, List.flatMap_cons, Text.split, Text.split, hfirst, hdepth]
      split <;> rfl

theorem parameterNames_eq {inside : List Char} (h : ∀ piece ∈ outerPieces 0 inside, ',' ∉ piece) :
    parameterNames inside = declaredParameters inside := by
  have hpieces : Text.split ',' inside = outerPieces 0 inside := by
    rw [split_outerPieces 0, List.flatMap_congr fun piece hp => split_of_not_mem (h piece hp)]
    exact List.flatMap_singleton' _
  rw [parameterNames, hpieces, declaredParameters]

theorem parameters_of_declaration {text : String} {s : Summary} (h : summarize text = .ok s) {f : Function}
    (hf : f ∈ s.functions) : ∃ line before taken behind, (codeLines text.toList)[f.line]? = some line ∧
      Reaches line before taken behind ∧ f.parameters = parameterNames taken ∧
      ∀ before' inside behind', Declares line before' inside behind' →
        (∀ before'' inside' behind'', Declares line before'' inside' behind'' → inside = inside') ∧
        (')' ∉ behind' → (∀ piece ∈ outerPieces 0 inside, ',' ∉ piece) →
          f.parameters = declaredParameters inside) := by
  cases summarize_ok h
  obtain ⟨number,line,hline,hf⟩ := Summary.mem_functions.mp hf
  obtain ⟨p,hp,rfl⟩ := Option.map_eq_some_iff.mp (Option.mem_toList.mp hf)
  obtain ⟨rfl,before,taken,behind,hreaches,hparameters⟩ := declared?_some hp
  refine ⟨line, before, taken, behind, hline, hreaches, hparameters, fun before' inside behind' hd => ?_⟩
  refine ⟨fun _ _ _ hd' => hd.unique hd', fun hlast hpieces => ?_⟩
  rw [hparameters, hreaches.eq_inside hd hlast, parameterNames_eq hpieces]

theorem parameters_of_declaration_listed :
    let text := "def f(a, b=[(1)]):\n    return a\n"
    let f : Function := ⟨"f", ["a","b"], 0⟩
    let inside := "a, b=[(1)]".toList
    ∃ s, summarize text = .ok s ∧ f ∈ s.functions ∧
      Declares "def f(a, b=[(1)]):".toList "def f".toList inside [':'] ∧ ')' ∉ [':'] ∧
      (∀ piece ∈ outerPieces 0 inside, ',' ∉ piece) ∧ f.parameters = declaredParameters inside := by
  intro text f inside
  have hs : summarize text = .ok ⟨2, [], [f], [⟨"f",0,4,true⟩, ⟨"a",0,6,false⟩, ⟨"b",0,9,false⟩, ⟨"a",1,11,false⟩]⟩ := by
    decide +kernel
  have hd : Declares "def f(a, b=[(1)]):".toList "def f".toList inside [':'] := by
    refine ⟨rfl, by decide, ?_⟩
    have hinner : Nests ['(','1',')'] := .pair '(' ['1'] ')' [] rfl rfl rfl (.plain _ _ rfl rfl .nil) .nil
    have hlist : Nests "[(1)]".toList := .pair '[' ['(','1',')'] ']' [] rfl rfl rfl hinner .nil
    exact .plain _ _ rfl rfl (.plain _ _ rfl rfl (.plain _ _ rfl rfl (.plain _ _ rfl rfl (.plain _ _ rfl rfl hlist))))
  have hpieces : ∀ piece ∈ outerPieces 0 inside, ',' ∉ piece := by decide
  obtain ⟨line,_,_,_,hline,-,-,h⟩ := parameters_of_declaration hs List.mem_cons_self
  have hfirst : (codeLines text.toList)[f.line]? = some "def f(a, b=[(1)]):".toList := by decide +kernel
  obtain rfl := Option.some.inj (hfirst.symm.trans hline)
  exact ⟨_, hs, List.mem_cons_self, hd, by decide, hpieces, (h _ _ _ hd).2 (by decide) hpieces⟩

theorem default_becomes_parameter : ¬∀ (text : String) (s : Summary), summarize text = .ok s → ∀ f ∈ s.functions,
    ∀ line before inside behind, (codeLines text.toList)[f.line]? = some line →
      Declares line before inside behind → f.parameters = declaredParameters inside := by
  intro h
  have hs : summarize "def f(a=(1, 2)):" =
      .ok ⟨1, [], [⟨"f",["a","2)"],0⟩], [⟨"f",0,4,true⟩, ⟨"a",0,6,false⟩]⟩ := by
    decide +kernel
  have hd : Declares "def f(a=(1, 2)):".toList "def f".toList "a=(1, 2)".toList [':'] := by
    refine ⟨rfl, by decide, .plain _ _ rfl rfl (.plain _ _ rfl rfl (.pair '(' "1, 2".toList ')' [] rfl rfl rfl ?_ .nil))⟩
    exact .plain _ _ rfl rfl (.plain _ _ rfl rfl (.plain _ _ rfl rfl (.plain _ _ rfl rfl .nil)))
  have hline : (codeLines "def f(a=(1, 2)):".toList)[0]? = some "def f(a=(1, 2)):".toList := by decide +kernel
  exact absurd (h _ _ hs ⟨"f",["a","2)"],0⟩ List.mem_cons_self _ _ _ _ hline hd) (by decide)

end LiveAnalysis.Source
