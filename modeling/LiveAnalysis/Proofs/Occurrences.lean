import LiveAnalysis.Proofs.Names
import LiveAnalysis.Proofs.Summaries

namespace LiveAnalysis.Source

structure Occurrence.Stands (text : List Char) (o : Occurrence) : Prop where
  written : ∃ line, (Text.lines text)[o.line]? = some line ∧ o.endColumn ≤ line.length ∧
    (line.drop o.column).take (o.endColumn - o.column) = o.name.toList
  inCode : ∃ row, (rows (marked text))[o.line]? = some row ∧
    ∀ p ∈ (row.drop o.column).take (o.endColumn - o.column), p.2 = .code
  noKeyword : isKeyword o.name = false

def Occurrence.Before (o o' : Occurrence) : Prop :=
  o.line < o'.line ∨ o.line = o'.line ∧ o.column < o'.column ∧ o.endColumn < o'.column

def isNameCode (p : Char × Kind) : Bool :=
  p.2 = .code && isNameChar p.1

/-- Such characters in a row, with no other one right before or behind. -/
structure MaximalRun (row : List (Char × Kind)) (column : Nat) (run : List Char) : Prop where
  code : ∀ (j : Nat) c, run[j]? = some c → row[column + j]? = some (c,.code)
  name : ∀ c ∈ run, isNameChar c = true
  left : ∀ i p, i + 1 = column → row[i]? = some p → isNameCode p = false
  right : ∀ p, row[column + run.length]? = some p → isNameCode p = false

theorem exists_split {α : Type} {l mid : List α} {k : Nat} (hmid : mid ≠ [])
    (h : ∀ (j : Nat) x, mid[j]? = some x → l[k + j]? = some x) :
    ∃ before behind, l = before ++ mid ++ behind ∧ before.length = k := by
  have hprefix : mid <+: l.drop k := by
    refine List.prefix_iff_getElem?.mpr fun j hj => ?_
    rw [List.getElem?_drop]
    exact h j _ (List.getElem?_eq_getElem hj)
  obtain ⟨behind,hb⟩ := hprefix
  refine ⟨l.take k, behind, ?_, ?_⟩
  · rw [List.append_assoc, hb, List.take_append_drop]
  · have hfirst := h 0 _ (List.getElem?_eq_getElem (List.length_pos_iff.mpr hmid))
    exact List.length_take_of_le (Nat.le_of_lt (List.getElem?_eq_some_iff.mp hfirst).1)

theorem exists_last {α : Type} {before : List α} {x : α} (h : x ∈ before.getLast?) :
    ∃ i, i + 1 = before.length ∧ ∀ behind, (before ++ behind)[i]? = some x := by
  obtain ⟨front,rfl⟩ := List.getLast?_eq_some_iff.mp h
  exact ⟨front.length, by simp, by simp⟩

theorem codeLine_iff {text : List Char} {number : Nat} {code : List Char} :
    (codeLines text)[number]? = some code ↔ ∃ row, (rows (marked text))[number]? = some row ∧ blanks row = code := by
  rw [codeLines_eq, List.getElem?_map, Option.map_eq_some_iff]

theorem blanked_row {text : List Char} {number : Nat} {row : List (Char × Kind)}
    (h : (rows (marked text))[number]? = some row) : Blanked row (blanks row) := by
  have hall := blanked_codeLines text
  rw [codeLines_eq, List.forall₂_map_right_iff, List.forall₂_same] at hall
  exact hall row (List.mem_of_getElem? h)

namespace Blanked

variable {row : List (Char × Kind)} {code : List Char} (h : Blanked row code)

include h

theorem getElem?_code {i : Nat} {c : Char} (hi : row[i]? = some (c,.code)) : code[i]? = some c := by
  rcases hx : code[i]? with _ | x
  · have hout : (c,Kind.code) ∈ row.drop code.length := by
      refine List.mem_of_getElem? (i := i - code.length) ?_
      rw [List.getElem?_drop, Nat.add_sub_cancel' (List.getElem?_eq_none_iff.mp hx), hi]
    cases h.cutOff _ hout
  · obtain ⟨d,kind,hd,hk⟩ := h.column i x hx
    cases hi.symm.trans hd
    rcases hk with ⟨-,rfl⟩ | ⟨hk,-⟩
    · rfl
    · cases hk

theorem getElem?_name {i : Nat} {x : Char} (hx : code[i]? = some x) (hn : isNameChar x = true) :
    row[i]? = some (x,.code) := by
  obtain ⟨c,kind,hc,⟨rfl,rfl⟩ | ⟨-,rfl⟩⟩ := h.column i x hx
  · exact hc
  · exact absurd hn (by decide)

theorem not_isNameChar {i : Nat} (hr : ∀ p, row[i]? = some p → isNameCode p = false) {x : Char}
    (hx : code[i]? = some x) : isNameChar x = false := by
  refine eq_false_of_ne_true fun hn => ?_
  have hp := hr _ (h.getElem?_name hx hn)
  simp [isNameCode, hn] at hp

theorem named {column : Nat} {run : List Char} (hrun : MaximalRun row column run)
    (hfirst : ∃ c ∈ run.head?, c.isDigit = false) :
    ∃ before behind, before.length = column ∧ Named code before [] run behind := by
  obtain ⟨c,hc,hd⟩ := hfirst
  obtain ⟨tail,rfl⟩ := List.head?_eq_some_iff.mp hc
  obtain ⟨before,behind,hcode,rfl⟩ := exists_split (List.cons_ne_nil c tail)
    fun j x hx => h.getElem?_code (hrun.code j x hx)
  refine ⟨before, behind, rfl, by simpa using hcode, fun x hx => ?_, nofun, ⟨c, tail, rfl, ?_⟩, hrun.name, fun x hx => ?_⟩
  · obtain ⟨i,hi,hlast⟩ := exists_last hx
    refine h.not_isNameChar (hrun.left i · hi) ?_
    rw [hcode, List.append_assoc]
    exact hlast _
  · exact startsName_iff.mpr ⟨hrun.name c List.mem_cons_self, hd⟩
  · refine h.not_isNameChar hrun.right ?_
    rw [hcode, List.getElem?_append_right (by simp)]
    simpa [List.head?_eq_getElem?] using hx

end Blanked

structure Occurrence.NamedOn (o : Occurrence) (row : List (Char × Kind)) (front numeral behind : List Char) : Prop where
  blanked : Blanked row (blanks row)
  named : Named (blanks row) front numeral o.name.toList behind
  column : o.column = (front ++ numeral).length
  noKeyword : isKeyword o.name = false

theorem occurrence_named {text : String} {s : Summary} (h : summarize text = .ok s) {o : Occurrence}
    (ho : o ∈ s.occurrences) : ∃ row front numeral behind, (rows (marked text.toList))[o.line]? = some row ∧
      o.NamedOn row front numeral behind := by
  cases summarize_ok h
  obtain ⟨number,code,hcode,ho⟩ := Summary.mem_occurrences.mp ho
  obtain ⟨row,hrow,rfl⟩ := codeLine_iff.mp hcode
  obtain ⟨t,ht,rfl⟩ := List.mem_map.mp ho
  obtain ⟨ht,hk⟩ := List.mem_filter.mp ht
  obtain ⟨front,numeral,name,behind,hn,rfl⟩ := mem_tokensFrom.mp ht
  refine ⟨row, front, numeral, behind, hrow, blanked_row hrow, ?_, Nat.zero_add _, by simpa using hk⟩
  rw [String.toList_ofList]
  exact hn

namespace Occurrence.NamedOn

variable {o : Occurrence} {row : List (Char × Kind)} {front numeral behind : List Char}
  (h : o.NamedOn row front numeral behind)

include h

theorem row_eq : ∃ before after, before.length = front.length ∧
    row = before ++ (numeral ++ o.name.toList).map (·,.code) ++ after := by
  obtain ⟨c,tail,hname,-⟩ := h.named.first
  have hne : (numeral ++ o.name.toList).map (·,Kind.code) ≠ [] := by simp [hname]
  have hchars : ∀ (j : Nat) x, ((numeral ++ o.name.toList).map (·,Kind.code))[j]? = some x →
      row[front.length + j]? = some x := by
    intro j x hx
    obtain ⟨c,hc,rfl⟩ := Option.map_eq_some_iff.mp (List.getElem?_map ▸ hx)
    have hin := (List.getElem?_eq_some_iff.mp hc).1
    refine h.blanked.getElem?_name ?_ ?_
    · rw [h.named.line, List.append_assoc front, List.append_assoc front,
        List.getElem?_append_right (Nat.le_add_right _ j), Nat.add_sub_cancel_left,
        List.getElem?_append_left hin, hc]
    · rcases List.mem_append.mp (List.mem_of_getElem? hc) with hm | hm
      · exact isNameChar_of_isDigit (h.named.numeral c hm)
      · exact h.named.name c hm
  obtain ⟨before,after,hrow,hb⟩ := exists_split hne hchars
  exact ⟨before, after, hb, hrow⟩

theorem stands {text : List Char} (hrow : (rows (marked text))[o.line]? = some row) : o.Stands text := by
  obtain ⟨before,after,hb,rfl⟩ := h.row_eq
  have hcolumn : o.column = (before ++ numeral.map (·,Kind.code)).length := by
    rw [h.column, List.length_append, List.length_append, List.length_map, hb]
  have hwidth : o.endColumn - o.column = (o.name.toList.map (·,Kind.code)).length := by
    rw [endColumn, Nat.add_sub_cancel_left, List.length_map, String.length_toList]
  have hcode : ((before ++ (numeral ++ o.name.toList).map (·,Kind.code) ++ after).drop o.column).take
      (o.endColumn - o.column) = o.name.toList.map (·,.code) := by
    rw [hwidth, hcolumn, List.map_append, ← List.append_assoc before, List.append_assoc _ _ after,
      List.drop_left, List.take_left]
  refine ⟨⟨_, rows_line hrow, ?_, ?_⟩, ⟨_, hrow, ?_⟩, h.noKeyword⟩
  · simp only [endColumn, hcolumn, List.map_append, List.length_append, List.length_map, String.length_toList]
    omega
  · rw [← List.map_drop, ← List.map_take, hcode]
    simp [Function.comp_def]
  · rw [hcode]
    simp

end Occurrence.NamedOn

theorem occurrences_before (lines : List (List Char)) :
    (Summary.ofLines 0 lines).occurrences.Pairwise Occurrence.Before := by
  rw [(Summary.ofLines_parts 0 lines).2.2, List.pairwise_flatMap]
  constructor
  · intro p _
    refine List.pairwise_map.mpr (((tokensFrom_apart 0 p.1).filter _).imp fun hapart => .inr ⟨rfl, ?_, hapart⟩)
    exact Nat.lt_of_le_of_lt (Nat.le_add_right _ _) hapart
  · refine (Summary.numbers_ascend lines).imp fun hlt o ho o' ho' => .inl ?_
    obtain ⟨t,-,rfl⟩ := List.mem_map.mp ho
    obtain ⟨t',-,rfl⟩ := List.mem_map.mp ho'
    exact hlt

theorem occurrences_exact {text : String} {s : Summary} (h : summarize text = .ok s) :
    (∀ o ∈ s.occurrences, o.Stands text.toList) ∧ s.occurrences.Pairwise Occurrence.Before ∧
    ∀ (number : Nat) row column run, (rows (marked text.toList))[number]? = some row → MaximalRun row column run →
      (∃ c ∈ run.head?, c.isDigit = false) → isKeyword (String.ofList run) = false →
      ∃ o ∈ s.occurrences, o.line = number ∧ o.column = column ∧ o.name = String.ofList run := by
  refine ⟨fun o ho => ?_, ?_, fun number row column run hrow hrun hfirst hkeyword => ?_⟩
  · obtain ⟨row,front,numeral,behind,hrow,hnamed⟩ := occurrence_named h ho
    exact hnamed.stands hrow
  · cases summarize_ok h
    exact occurrences_before _
  · cases summarize_ok h
    obtain ⟨before,behind,rfl,hnamed⟩ := (blanked_row hrow).named hrun hfirst
    have ht : ⟨before.length, String.ofList run⟩ ∈ tokens (blanks row) :=
      mem_tokensFrom.mpr ⟨before, [], run, behind, hnamed, by simp⟩
    have hkept : _ ∈ (tokens (blanks row)).filter fun t => !isKeyword t.name :=
      List.mem_filter.mpr ⟨ht, by simpa using hkeyword⟩
    have hcode := codeLine_iff.mpr ⟨row,hrow,rfl⟩
    exact ⟨_, Summary.mem_occurrences.mpr ⟨number, _, hcode, List.mem_map_of_mem hkept⟩, rfl, rfl, rfl⟩

theorem occurrences_exact_quoted :
    let text := "x = 'y' + z1 # w"
    let row := "x = ".toList.map (·,.code) ++ "'y'".toList.map (·,.literal) ++ " + z1 ".toList.map (·,.code) ++
      "# w".toList.map (·,.comment)
    let run := ['z','1']
    ∃ s, summarize text = .ok s ∧ (rows (marked text.toList))[0]? = some row ∧ MaximalRun row 10 run ∧
      (∃ c ∈ run.head?, c.isDigit = false) ∧ isKeyword (String.ofList run) = false ∧
      (⟨"x",0,0,true⟩ ∈ s.occurrences ∧ Occurrence.Stands text.toList ⟨"x",0,0,true⟩) ∧
      s.occurrences.Pairwise Occurrence.Before ∧
      ∃ o ∈ s.occurrences, o.line = 0 ∧ o.column = 10 ∧ o.name = String.ofList run := by
  intro text row run
  have hs : summarize text = .ok ⟨1, [⟨"x",0,0⟩], [], [⟨"x",0,0,true⟩, ⟨"z1",0,10,false⟩]⟩ := by decide +kernel
  have hrow : (rows (marked text.toList))[0]? = some row := by decide +kernel
  obtain ⟨hstand,hbefore,hcomplete⟩ := occurrences_exact hs
  have hrun : MaximalRun row 10 run := by
    refine ⟨?_, List.all_eq_true.mp (by decide), ?_, ?_⟩
    · rintro (_ | _ | j) c h <;> cases h <;> rfl
    · rintro i p hi hp
      obtain rfl : i = 9 := by omega
      cases hp
      decide
    · rintro p hp
      cases hp
      decide
  have hfirst : ∃ c ∈ run.head?, c.isDigit = false := ⟨'z', rfl, by decide⟩
  have hkeyword : isKeyword (String.ofList run) = false := by decide
  exact ⟨_, hs, hrow, hrun, hfirst, hkeyword, ⟨by simp, hstand _ (by simp)⟩, hbefore,
    hcomplete 0 row 10 run hrow hrun hfirst hkeyword⟩

end LiveAnalysis.Source
