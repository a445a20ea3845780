import Mathlib.Data.List.Induction
import LiveAnalysis.Proofs.Occurrences
import LiveAnalysis.Proofs.Parameters

namespace LiveAnalysis.Source

def isBracket (c : Char) : Bool :=
  isOpening c || isClosing c

def rowBrackets (number : Nat) (row : List (Char × Kind)) : List (Char × Nat) :=
  (row.filter fun p => p.2 = .code && isBracket p.1).map fun p => (p.1,number)

def bracketsFrom : Nat → List (List (Char × Kind)) → List (Char × Nat)
  | _, [] => []
  | number, row :: more => rowBrackets number row ++ bracketsFrom (number + 1) more

def brackets (text : List Char) : List (Char × Nat) :=
  bracketsFrom 0 (rows (marked text))

def Completes (word : List Char) : Prop :=
  ∃ more, Nests (word ++ more)

def nestOne (stack : Open) (p : Char × Nat) : Except SyntaxFault Open :=
  if isOpening p.1 then .ok (p :: stack)
  else if isClosing p.1 then
    match stack with
    | (b,_) :: below => if b = opening p.1 then .ok below else .error (.unbalanced p.1 p.2)
    | [] => .error (.unbalanced p.1 p.2)
  else .ok stack

/-- A word and the brackets that it leaves open, the innermost first. -/
inductive Leaves : List (Char × Nat) → Open → Prop where
  | nothing (word : List (Char × Nat)) : Nests (word.map Prod.fst) → Leaves word []
  | opened (word : List (Char × Nat)) (stack : Open) (p : Char × Nat) (behind : List (Char × Nat)) : Leaves word stack →
      isOpening p.1 = true → Nests (behind.map Prod.fst) → Leaves (word ++ p :: behind) (p :: stack)

theorem Nests.append {u v : List Char} (hu : Nests u) (hv : Nests v) : Nests (u ++ v) := by
  induction hu with
  | nil => exact hv
  | plain c rest ho hc _ ih => exact .plain c _ ho hc ih
  | pair b inside c rest hb hc he hinside _ _ ih =>
    have h := Nests.pair b inside c (rest ++ v) hb hc he hinside ih
    simpa using h

theorem exists_closing {b : Char} (h : isOpening b = true) : ∃ c, isClosing c = true ∧ opening c = b := by
  simp only [isOpening, Bool.or_eq_true, decide_eq_true_eq] at h
  rcases h with (rfl | rfl) | rfl
  · exact ⟨')', rfl, rfl⟩
  · exact ⟨']', rfl, rfl⟩
  · exact ⟨'\x7d', rfl, rfl⟩

theorem nestOne_opening {p : Char × Nat} (h : isOpening p.1 = true) (stack : Open) : nestOne stack p = .ok (p :: stack) :=
  if_pos h

theorem nestOne_closing {p : Char × Nat} (h : isClosing p.1 = true) (number : Nat) (below : Open) :
    nestOne ((opening p.1,number) :: below) p = .ok below := by
  simp [nestOne, not_isOpening h, h]

theorem nestOne_plain {p : Char × Nat} (h : isBracket p.1 = false) (stack : Open) : nestOne stack p = .ok stack := by
  obtain ⟨ho,hc⟩ := Bool.or_eq_false_iff.mp h
  simp [nestOne, ho, hc]

theorem nestOne_cases (stack : Open) (p : Char × Nat) :
    (isOpening p.1 = true ∧ nestOne stack p = .ok (p :: stack)) ∨
    (isBracket p.1 = false ∧ nestOne stack p = .ok stack) ∨
    (isClosing p.1 = true ∧ ∃ number below, stack = (opening p.1,number) :: below ∧ nestOne stack p = .ok below) ∨
    (isClosing p.1 = true ∧ nestOne stack p = .error (.unbalanced p.1 p.2)) := by
  by_cases ho : isOpening p.1 = true
  · exact .inl ⟨ho, nestOne_opening ho stack⟩
  by_cases hc : isClosing p.1 = true
  · refine .inr (.inr ?_)
    cases stack with
    | nil => exact .inr ⟨hc, by simp [nestOne, ho, hc]⟩
    | cons q below =>
      obtain ⟨b,number⟩ := q
      by_cases hb : b = opening p.1
      · subst hb
        exact .inl ⟨hc, number, below, rfl, nestOne_closing hc number below⟩
      · exact .inr ⟨hc, by simp [nestOne, ho, hc, hb]⟩
  · have hp : isBracket p.1 = false := by simp [isBracket, ho, hc]
    exact .inr (.inl ⟨hp, nestOne_plain hp stack⟩)

theorem foldlM_cons_ok {stack stack' : Open} {p : Char × Nat} (h : nestOne stack p = .ok stack') (word : List (Char × Nat)) :
    (p :: word).foldlM nestOne stack = word.foldlM nestOne stack' := by
  rw [List.foldlM_cons, h]
  rfl

theorem foldlM_append_ok {stack stack' : Open} {u : List (Char × Nat)} (h : u.foldlM nestOne stack = .ok stack')
    (v : List (Char × Nat)) : (u ++ v).foldlM nestOne stack = v.foldlM nestOne stack' := by
  rw [List.foldlM_append, h]
  rfl

theorem Nests.foldlM {word : List (Char × Nat)} (h : Nests (word.map Prod.fst)) (stack : Open) :
    word.foldlM nestOne stack = .ok stack := by
  generalize hchars : word.map Prod.fst = chars at h
  induction h generalizing word stack with
  | nil =>
    rw [List.map_eq_nil_iff.mp hchars]
    rfl
  | plain c rest ho hc _ ih =>
    obtain ⟨p,tail,rfl,rfl,hrest⟩ := List.map_eq_cons_iff.mp hchars
    have hp : isBracket p.1 = false := by simp [isBracket, ho, hc]
    rw [foldlM_cons_ok (nestOne_plain hp stack), ih stack hrest]
  | pair b inside c rest hb hc he _ _ ihinside ihrest =>
    obtain ⟨p,tail,rfl,rfl,htail⟩ := List.map_eq_cons_iff.mp hchars
    obtain ⟨u,v,rfl,hu,hv⟩ := List.map_eq_append_iff.mp htail
    obtain ⟨q,w,rfl,rfl,hw⟩ := List.map_eq_cons_iff.mp hv
    have hclose : nestOne (p :: stack) q = .ok stack := by
      have hp : p = (opening q.1,p.2) := Prod.ext he.symm rfl
      rw [hp]
      exact nestOne_closing hc p.2 stack
    rw [foldlM_cons_ok (nestOne_opening hb stack), foldlM_append_ok (ihinside (p :: stack) hu),
      foldlM_cons_ok hclose, ihrest stack hw]

namespace Leaves

variable {word v : List (Char × Nat)} {stack stack' : Open} {p : Char × Nat}

theorem append (h : Leaves word stack) (hv : Nests (v.map Prod.fst)) : Leaves (word ++ v) stack := by
  cases h with
  | nothing _ hn =>
    refine .nothing _ ?_
    rw [List.map_append]
    exact hn.append hv
  | opened word stack p behind hw hp hb =>
    rw [List.append_assoc, List.cons_append]
    refine .opened word stack p _ hw hp ?_
    rw [List.map_append]
    exact hb.append hv

theorem step (h : Leaves word stack) (hs : nestOne stack p = .ok stack') : Leaves (word ++ [p]) stack' := by
  rcases nestOne_cases stack p with ⟨hp,he⟩ | ⟨hp,he⟩ | ⟨hp,number,below,rfl,he⟩ | ⟨-,he⟩
  · cases hs.symm.trans he
    exact .opened word stack p [] h hp .nil
  · cases hs.symm.trans he
    obtain ⟨ho,hc⟩ := Bool.or_eq_false_iff.mp hp
    exact h.append (.plain _ _ ho hc .nil)
  · cases hs.symm.trans he
    cases h with
    | opened word' _ _ behind hw hb hn =>
      have hpair : Nests (((opening p.1,number) :: (behind ++ [p])).map Prod.fst) := by
        have h := Nests.pair (opening p.1) (behind.map Prod.fst) p.1 [] hb hp rfl hn .nil
        simpa using h
      have h := hw.append hpair
      simpa using h
  · cases hs.symm.trans he

theorem isOpening (h : Leaves word stack) : ∀ q ∈ stack, isOpening q.1 = true := by
  induction h with
  | nothing => nofun
  | opened _ _ _ _ _ hp _ ih => exact List.forall_mem_cons.mpr ⟨hp,ih⟩

theorem foldlM (h : Leaves word stack) : word.foldlM nestOne [] = .ok stack := by
  induction h with
  | nothing word hn => exact hn.foldlM []
  | opened word stack p behind _ hp hn ih =>
    rw [foldlM_append_ok ih, foldlM_cons_ok (nestOne_opening hp stack), hn.foldlM]

end Leaves

theorem foldlM_ok_iff {word : List (Char × Nat)} {stack : Open} :
    word.foldlM nestOne [] = .ok stack ↔ Leaves word stack := by
  refine ⟨fun h => ?_, Leaves.foldlM⟩
  induction word using List.reverseRecOn generalizing stack with
  | nil =>
    cases h
    exact .nothing [] .nil
  | append_singleton word p ih =>
    cases hw : word.foldlM nestOne [] with
    | error fault =>
      rw [List.foldlM_append, hw] at h
      cases h
    | ok below =>
      rw [foldlM_append_ok hw] at h
      have hp : nestOne below p = .ok stack := by simpa using h
      exact (ih hw).step hp

theorem nests_iff {word : List (Char × Nat)} : Nests (word.map Prod.fst) ↔ word.foldlM nestOne [] = .ok [] := by
  refine ⟨fun h => h.foldlM [], fun h => ?_⟩
  cases foldlM_ok_iff.mp h with
  | nothing _ hn => exact hn

theorem foldlM_error_iff {word : List (Char × Nat)} {stack : Open} {fault : SyntaxFault} :
    word.foldlM nestOne stack = .error fault ↔ ∃ before p after below, word = before ++ p :: after ∧
      before.foldlM nestOne stack = .ok below ∧ nestOne below p = .error fault := by
  constructor
  · intro h
    induction word generalizing stack with
    | nil => cases h
    | cons p word ih =>
      cases hp : nestOne stack p with
      | error e =>
        rw [List.foldlM_cons, hp] at h
        cases h
        exact ⟨[], p, word, stack, rfl, rfl, hp⟩
      | ok next =>
        rw [foldlM_cons_ok hp] at h
        obtain ⟨before,q,after,below,rfl,hbefore,hq⟩ := ih h
        exact ⟨p :: before, q, after, below, rfl, (foldlM_cons_ok hp before).trans hbefore, hq⟩
  · rintro ⟨before,p,after,below,rfl,hbefore,hp⟩
    rw [foldlM_append_ok hbefore, List.foldlM_cons, hp]
    rfl

theorem exists_completion {stack : Open} (h : ∀ q ∈ stack, isOpening q.1 = true) :
    ∃ more, List.foldlM nestOne stack more = .ok [] := by
  induction stack with
  | nil => exact ⟨[], rfl⟩
  | cons q stack ih =>
    obtain ⟨hq,hstack⟩ := List.forall_mem_cons.mp h
    obtain ⟨c,hc,he⟩ := exists_closing hq
    obtain ⟨more,hmore⟩ := ih hstack
    have hclose : nestOne (q :: stack) (c,0) = .ok stack := by
      have hq : q = (opening (c,0).1,q.2) := Prod.ext he.symm rfl
      rw [hq]
      exact nestOne_closing (p := (c,0)) hc q.2 stack
    exact ⟨(c,0) :: more, (foldlM_cons_ok hclose more).trans hmore⟩

theorem completes_iff {word : List (Char × Nat)} :
    Completes (word.map Prod.fst) ↔ ∃ stack, word.foldlM nestOne [] = .ok stack := by
  constructor
  · rintro ⟨more,hn⟩
    have hchars : word.map Prod.fst ++ more = (word ++ more.map (·,0)).map Prod.fst := by
      simp [Function.comp_def]
    rw [hchars] at hn
    have hall := hn.foldlM []
    cases hw : word.foldlM nestOne [] with
    | ok stack => exact ⟨stack,rfl⟩
    | error fault =>
      rw [List.foldlM_append, hw] at hall
      cases hall
  · rintro ⟨stack,h⟩
    obtain ⟨more,hmore⟩ := exists_completion (foldlM_ok_iff.mp h).isOpening
    have hn := nests_iff.mpr ((foldlM_append_ok h more).trans hmore)
    rw [List.map_append] at hn
    exact ⟨_,hn⟩

theorem nestLine_cons (number : Nat) (stack : Open) (c : Char) (code : List Char) :
    nestLine number stack (c :: code) = (nestOne stack (c,number) >>= fun next => nestLine number next code) := by
  rw [nestLine.eq_def]
  by_cases ho : isOpening c = true
  · simp only [nestOne, if_pos ho]
    rfl
  by_cases hc : isClosing c = true
  · cases stack with
    | nil => simp only [nestOne, if_neg ho, if_pos hc]; rfl
    | cons q below =>
      simp only [nestOne, if_neg ho, if_pos hc]
      split <;> rfl
  · simp only [nestOne, if_neg ho, if_neg hc]
    rfl

theorem nestLine_eq (number : Nat) (stack : Open) (code : List Char) :
    nestLine number stack code = (code.map (·,number)).foldlM nestOne stack := by
  induction code generalizing stack with
  | nil => rfl
  | cons c code ih => simp only [nestLine_cons, List.map_cons, List.foldlM_cons, ih]

theorem foldlM_filter (stack : Open) (word : List (Char × Nat)) :
    (word.filter fun p => isBracket p.1).foldlM nestOne stack = word.foldlM nestOne stack := by
  induction word generalizing stack with
  | nil => rfl
  | cons p word ih =>
    by_cases hp : isBracket p.1 = true
    · simp only [List.filter_cons_of_pos (p := fun p : Char × Nat => isBracket p.1) hp, List.foldlM_cons, ih]
    · rw [List.filter_cons_of_neg (by simpa using hp), ih, foldlM_cons_ok (nestOne_plain (eq_false_of_ne_true hp) stack)]

theorem brackets_blanks {row : List (Char × Kind)} (h : Blanked row (blanks row)) :
    (blanks row).filter isBracket = (row.filter fun p => p.2 = .code && isBracket p.1).map Prod.fst := by
  have hsplit := row.takeWhile_append_dropWhile (p := fun p => p.2 ≠ .comment)
  have hcut : (row.dropWhile fun p => p.2 ≠ .comment).filter (fun p => p.2 = .code && isBracket p.1) = [] := by
    refine List.filter_eq_nil_iff.mpr fun p hp => ?_
    have hdrop := (congrArg (List.drop (blanks row).length) hsplit).symm
    rw [blanks, List.length_map, List.drop_left] at hdrop
    rw [← hdrop] at hp
    simp [h.cutOff p (by simpa [blanks] using hp)]
  have hsame : ∀ p : Char × Kind, isBracket (if p.2 = .code then p.1 else ' ') = (decide (p.2 = .code) && isBracket p.1) := by
    intro p
    by_cases hp : p.2 = .code
    · simp [hp]
    · rw [if_neg hp, decide_eq_false hp, Bool.false_and]
      rfl
  rw [← congrArg (List.filter _) hsplit, List.filter_append, hcut, List.append_nil, blanks, List.filter_map]
  simp only [Function.comp_def, hsame]
  refine List.map_congr_left fun p hp => ?_
  have hcode : p.2 = .code := by
    have h := (List.mem_filter.mp hp).2
    simp only [Bool.and_eq_true, decide_eq_true_eq] at h
    exact h.1
  rw [if_pos hcode]

theorem nestLine_blanks (number : Nat) (stack : Open) {row : List (Char × Kind)} (h : Blanked row (blanks row)) :
    nestLine number stack (blanks row) = (rowBrackets number row).foldlM nestOne stack := by
  rw [rowBrackets, nestLine_eq, ← foldlM_filter, List.filter_map]
  have hb := congrArg (List.map (·,number)) (brackets_blanks h)
  simp only [List.map_map, Function.comp_def] at hb
  rw [← hb]
  rfl

theorem nestLines_blanks (number : Nat) (stack : Open) {rows : List (List (Char × Kind))}
    (h : ∀ row ∈ rows, Blanked row (blanks row)) :
    nestLines number stack (rows.map blanks) = (bracketsFrom number rows).foldlM nestOne stack := by
  induction rows generalizing number stack with
  | nil => rfl
  | cons row rows ih =>
    obtain ⟨hrow,hrows⟩ := List.forall_mem_cons.mp h
    rw [List.map_cons, nestLines, nestLine_blanks number stack hrow, bracketsFrom, List.foldlM_append]
    simp only [ih (number + 1) _ hrows]

theorem summarize_eq (text : String) : summarize text =
    match (brackets text.toList).foldlM nestOne [] with
    | .ok [] => .ok (Summary.ofLines 0 (codeLines text.toList))
    | .ok ((b,number) :: _) => .error (.neverClosed b number)
    | .error fault => .error fault := by
  have hrows : ∀ row ∈ rows (marked text.toList), Blanked row (blanks row) := by
    intro row hrow
    obtain ⟨number,hat⟩ := List.mem_iff_getElem?.mp hrow
    exact blanked_row hat
  have hlines := nestLines_blanks 0 [] hrows
  rw [← codeLines_eq] at hlines
  rw [summarize, checkBrackets, hlines, brackets]
  cases (bracketsFrom 0 (rows (marked text.toList))).foldlM nestOne [] with
  | error fault => rfl
  | ok stack => cases stack <;> rfl

theorem nestOne_error {stack : Open} {p : Char × Nat} {fault : SyntaxFault} (h : nestOne stack p = .error fault) :
    isClosing p.1 = true ∧ fault = .unbalanced p.1 p.2 := by
  rcases nestOne_cases stack p with ⟨-,he⟩ | ⟨-,he⟩ | ⟨-,_,_,-,he⟩ | ⟨hc,he⟩
  · cases h.symm.trans he
  · cases h.symm.trans he
  · cases h.symm.trans he
  · cases h.symm.trans he
    exact ⟨hc,rfl⟩

theorem stops_iff {word : List (Char × Nat)} {c : Char} {number : Nat} :
    word.foldlM nestOne [] = .error (.unbalanced c number) ↔ isClosing c = true ∧ ∃ before after,
      word = before ++ (c,number) :: after ∧ Completes (before.map Prod.fst) ∧ ¬Completes (before.map Prod.fst ++ [c]) := by
  constructor
  · intro h
    obtain ⟨before,p,after,below,rfl,hbefore,hp⟩ := foldlM_error_iff.mp h
    obtain ⟨hc,he⟩ := nestOne_error hp
    cases he
    refine ⟨hc, before, after, rfl, completes_iff.mpr ⟨below,hbefore⟩, fun hall => ?_⟩
    have hchars : before.map Prod.fst ++ [p.1] = (before ++ [p]).map Prod.fst := by simp
    obtain ⟨stack,hstack⟩ := completes_iff.mp (hchars ▸ hall)
    rw [foldlM_append_ok hbefore, List.foldlM_cons, hp] at hstack
    cases hstack
  · rintro ⟨hc,before,after,rfl,hbefore,hstop⟩
    obtain ⟨below,hbelow⟩ := completes_iff.mp hbefore
    refine foldlM_error_iff.mpr ⟨before, (c,number), after, below, rfl, hbelow, ?_⟩
    cases hp : nestOne below (c,number) with
    | error fault => rw [(nestOne_error hp).2]
    | ok stack =>
      refine absurd ?_ hstop
      have hread : (before ++ [(c,number)]).foldlM nestOne [] = .ok stack := by
        rw [foldlM_append_ok hbelow, foldlM_cons_ok hp]
        rfl
      have h := completes_iff.mpr ⟨stack,hread⟩
      rwa [List.map_append] at h

theorem open_iff {word : List (Char × Nat)} {p : Char × Nat} : (∃ below, word.foldlM nestOne [] = .ok (p :: below)) ↔
    Completes (word.map Prod.fst) ∧ ∃ before behind, word = before ++ p :: behind ∧ isOpening p.1 = true ∧
      Nests (behind.map Prod.fst) := by
  constructor
  · rintro ⟨below,h⟩
    refine ⟨completes_iff.mpr ⟨_,h⟩, ?_⟩
    cases foldlM_ok_iff.mp h with
    | opened before _ _ behind _ hp hn => exact ⟨before, behind, rfl, hp, hn⟩
  · rintro ⟨hall,before,behind,rfl,hp,hn⟩
    obtain ⟨stack,hstack⟩ := completes_iff.mp hall
    cases hbefore : before.foldlM nestOne [] with
    | error fault =>
      rw [List.foldlM_append, hbefore] at hstack
      cases hstack
    | ok below =>
      refine ⟨below, ?_⟩
      rw [foldlM_append_ok hbefore, foldlM_cons_ok (nestOne_opening hp below), hn.foldlM]

theorem verdict (text : String) :
    ((∃ s, summarize text = .ok s) ∧ (brackets text.toList).foldlM nestOne [] = .ok []) ∨
    (∃ b number below, summarize text = .error (.neverClosed b number) ∧
      (brackets text.toList).foldlM nestOne [] = .ok ((b,number) :: below)) ∨
    ∃ c number, summarize text = .error (.unbalanced c number) ∧
      (brackets text.toList).foldlM nestOne [] = .error (.unbalanced c number) := by
  have hread := summarize_eq text
  cases hword : (brackets text.toList).foldlM nestOne [] with
  | error fault =>
    obtain ⟨_,p,_,_,-,-,hp⟩ := foldlM_error_iff.mp hword
    rw [hword, (nestOne_error hp).2] at hread
    rw [(nestOne_error hp).2]
    exact .inr (.inr ⟨p.1, p.2, hread, rfl⟩)
  | ok stack =>
    rw [hword] at hread
    cases stack with
    | nil => exact .inl ⟨⟨_,hread⟩, rfl⟩
    | cons p below => exact .inr (.inl ⟨p.1, p.2, below, hread, rfl⟩)

theorem brackets_decide (text : String) :
    let word := brackets text.toList
    ((∃ s, summarize text = .ok s) ↔ Nests (word.map Prod.fst)) ∧
    (∀ c number, summarize text = .error (.unbalanced c number) ↔
      isClosing c = true ∧ ∃ before after, word = before ++ (c,number) :: after ∧ Completes (before.map Prod.fst) ∧
        ¬Completes (before.map Prod.fst ++ [c])) ∧
    (∀ b number, summarize text = .error (.neverClosed b number) ↔
      Completes (word.map Prod.fst) ∧ ∃ before behind, word = before ++ (b,number) :: behind ∧ isOpening b = true ∧
        Nests (behind.map Prod.fst)) ∧
    ∀ bracket number,
      (SyntaxFault.unbalanced bracket number).message = s!"line {number + 1}: unbalanced '{bracket}'" ∧
      (SyntaxFault.neverClosed bracket number).message = s!"line {number + 1}: '{bracket}' is never closed" := by
  intro word
  refine ⟨?_, fun c number => ?_, fun b number => ?_, fun _ _ => ⟨rfl,rfl⟩⟩
  · rw [nests_iff]
    rcases verdict text with ⟨⟨s,hs⟩,he⟩ | ⟨b,number,below,hs,he⟩ | ⟨c,number,hs,he⟩ <;> simp [word, hs, he]
  · rw [← stops_iff]
    rcases verdict text with ⟨⟨s,hs⟩,he⟩ | ⟨b,number,below,hs,he⟩ | ⟨c,number,hs,he⟩ <;> simp [word, hs, he]
  · rw [← open_iff (p := (b,number))]
    rcases verdict text with ⟨⟨s,hs⟩,he⟩ | ⟨b,number,below,hs,he⟩ | ⟨c,number,hs,he⟩ <;> simp [word, hs, he]

example : summarize "f(\n['[']]" = .error (.unbalanced ']' 1) := by
  decide +kernel

end LiveAnalysis.Source
