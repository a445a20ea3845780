import Mathlib.Data.List.Chain
import LiveAnalysis.Source.Cursor
import LiveAnalysis.Proofs.Occurrences

namespace LiveAnalysis.Source

/-- A digit stands right before the occurrence, as in a number with letters. -/
def Occurrence.FollowsDigit (text : List Char) (o : Occurrence) : Prop :=
  ∃ row i d, (Text.lines text)[o.line]? = some row ∧ i + 1 = o.column ∧ row[i]? = some d ∧ d.isDigit = true

theorem not_isNameChar_of_isQuote {c : Char} (h : isQuote c = true) : isNameChar c = false := by
  rcases Bool.or_eq_true_iff.mp h with h | h <;> cases of_decide_eq_true h <;> decide

theorem wordBefore_eq {text : String} {number column : Nat} {line before names after : List Char}
    (hline : (Text.lines text.toList)[number]? = some line) (hsplit : line = before ++ names ++ after)
    (hcolumn : (before ++ names).length = column) (hb : ∀ c ∈ before.getLast?, isNameChar c = false)
    (hn : ∀ c ∈ names, isNameChar c = true) : wordBefore text number column = String.ofList names := by
  have htake : line.take column = before ++ names := by rw [hsplit, ← hcolumn, List.take_left]
  have hspan : (names.reverse ++ before.reverse).takeWhile isNameChar = names.reverse :=
    (span_exact (fun c hc => hn c (List.mem_reverse.mp hc)) (by simpa using hb)).1
  simp [wordBefore, backwards?, hline, htake, hspan]

namespace Occurrence.NamedOn

variable {o : Occurrence} {row : List (Char × Kind)} {front numeral behind : List Char}
  (h : o.NamedOn row front numeral behind) (hq : Quoted row)

include h hq

theorem not_isNameChar_before {before after : List (Char × Kind)} (hb : before.length = front.length)
    (hrow : row = before ++ ((numeral ++ o.name.toList).map (·,.code) ++ after)) {p : Char × Kind}
    (hp : p ∈ before.getLast?) : isNameChar p.1 = false := by
  obtain ⟨i,hi,hat⟩ := exists_last hp
  obtain ⟨x,hx⟩ : ∃ x, x ∈ front.getLast? := by
    refine Option.isSome_iff_exists.mp (List.getLast?_isSome.mpr (List.length_pos_iff.mp ?_))
    omega
  obtain ⟨j,hj,hcode⟩ := exists_last hx
  obtain rfl : j = i := by omega
  have hline : blanks row = front ++ (numeral ++ o.name.toList ++ behind) := by
    rw [h.named.line, List.append_assoc, List.append_assoc, List.append_assoc]
  obtain ⟨c,kind,hc,hkind⟩ := h.blanked.column j x (hline ▸ hcode _)
  cases (hrow ▸ hat _).symm.trans hc
  rcases hkind with ⟨-,rfl⟩ | ⟨rfl,-⟩
  · exact h.named.front x hx
  · obtain ⟨d,tail,hname,-⟩ := h.named.first
    rw [hrow] at hq
    have hnext := (List.isChain_append.mp hq).2.2 _ hp
    cases numeral with
    | nil => exact not_isNameChar_of_isQuote (hnext (d,.code) (by simp [hname]) rfl rfl)
    | cons e numeral => exact not_isNameChar_of_isQuote (hnext (e,.code) rfl rfl rfl)

theorem before_eq : ∃ before after, before.length = front.length ∧
    row.map Prod.fst = before ++ (numeral ++ o.name.toList) ++ after ∧
      ∀ c ∈ before.getLast?, isNameChar c = false := by
  obtain ⟨before,after,hb,hrow⟩ := h.row_eq
  refine ⟨before.map Prod.fst, after.map Prod.fst, by simpa using hb, by simp [hrow, Function.comp_def], ?_⟩
  intro c hc
  rw [List.getLast?_map] at hc
  obtain ⟨p,hp,rfl⟩ := Option.map_eq_some_iff.mp hc
  exact h.not_isNameChar_before hq hb (by rw [hrow, List.append_assoc]) hp

end Occurrence.NamedOn

theorem followsDigit_iff {text : List Char} {o : Occurrence} {line before numeral after : List Char}
    (hline : (Text.lines text)[o.line]? = some line) (hsplit : line = before ++ numeral ++ after)
    (hcolumn : o.column = (before ++ numeral).length) (hb : ∀ c ∈ before.getLast?, isNameChar c = false)
    (hn : ∀ d ∈ numeral, d.isDigit = true) : o.FollowsDigit text ↔ numeral ≠ [] := by
  constructor
  · rintro ⟨l,i,d,hl,hi,hd,hdigit⟩ rfl
    cases hl.symm.trans hline
    rw [List.append_nil] at hsplit hcolumn
    rw [hsplit, List.getElem?_append_left (by omega)] at hd
    have hlast : d ∈ before.getLast? := by
      rw [List.getLast?_eq_getElem?, ← hcolumn, ← hi]
      exact hd
    exact absurd (isNameChar_of_isDigit hdigit) (ne_true_of_eq_false (hb d hlast))
  · intro hne
    obtain ⟨d,hd⟩ := Option.isSome_iff_exists.mp (List.getLast?_isSome.mpr hne)
    have hlast : d ∈ (before ++ numeral).getLast? := (List.getLast?_append_of_ne_nil before hne).trans hd
    obtain ⟨i,hi,hat⟩ := exists_last hlast
    exact ⟨line, i, d, hline, hi.trans hcolumn.symm, hsplit ▸ hat after, hn d (List.mem_of_getLast? hd)⟩

namespace Occurrence.NamedOn

variable {o : Occurrence} {row : List (Char × Kind)} {front numeral behind : List Char}
  (h : o.NamedOn row front numeral behind)

include h

theorem wordBefore_eq {text : String} (hrow : (rows (marked text.toList))[o.line]? = some row) {column : Nat}
    (hfrom : o.column ≤ column) (hto : column ≤ o.endColumn) :
    wordBefore text o.line column = String.ofList (numeral ++ o.name.toList.take (column - o.column)) := by
  obtain ⟨before,after,hb,hline,hlast⟩ := h.before_eq (quoted_rows _ _ (List.mem_of_getElem? hrow))
  have hcolumn := h.column
  rw [endColumn, ← String.length_toList] at hto
  rw [List.length_append] at hcolumn
  have hsplit : row.map Prod.fst = before ++ (numeral ++ o.name.toList.take (column - o.column)) ++
      (o.name.toList.drop (column - o.column) ++ after) := by
    simp only [hline, List.append_assoc]
    rw [← List.append_assoc (List.take _ _), List.take_append_drop]
  refine Source.wordBefore_eq (rows_line hrow) hsplit ?_ hlast ?_
  · simp only [List.length_append, List.length_take]
    omega
  · intro c hc
    rcases List.mem_append.mp hc with hc | hc
    · exact isNameChar_of_isDigit (h.named.numeral c hc)
    · exact h.named.name c (List.mem_of_mem_take hc)

theorem followsDigit_iff {text : List Char} (hrow : (rows (marked text))[o.line]? = some row) :
    o.FollowsDigit text ↔ numeral ≠ [] := by
  obtain ⟨before,after,hb,hline,hlast⟩ := h.before_eq (quoted_rows _ _ (List.mem_of_getElem? hrow))
  have hsplit : row.map Prod.fst = before ++ numeral ++ (o.name.toList ++ after) := by simpa using hline
  have hcolumn : o.column = (before ++ numeral).length := by
    rw [h.column, List.length_append, List.length_append, hb]
  exact Source.followsDigit_iff (rows_line hrow) hsplit hcolumn hlast h.named.numeral

end Occurrence.NamedOn

theorem word_before_occurrence {text : String} {s : Summary} (h : summarize text = .ok s) {o : Occurrence}
    (ho : o ∈ s.occurrences) :
    (∃ numeral, (∀ d ∈ numeral, d.isDigit = true) ∧ ∀ column, o.column ≤ column → column ≤ o.endColumn →
      wordBefore text o.line column = String.ofList (numeral ++ o.name.toList.take (column - o.column))) ∧
    ((∀ column, o.column ≤ column → column ≤ o.endColumn →
      wordBefore text o.line column = String.ofList (o.name.toList.take (column - o.column))) ↔
      ¬o.FollowsDigit text.toList) := by
  obtain ⟨row,front,numeral,behind,hrow,hnamed⟩ := occurrence_named h ho
  have hdigit := hnamed.followsDigit_iff hrow
  refine ⟨⟨numeral, hnamed.named.numeral, fun _ => hnamed.wordBefore_eq hrow⟩, fun hclaim hd => ?_, fun hd column hfrom hto => ?_⟩
  · have hstart := (hnamed.wordBefore_eq hrow (Nat.le_refl _) (Nat.le_add_right _ _)).symm.trans
      (hclaim o.column (Nat.le_refl _) (Nat.le_add_right _ _))
    rw [Nat.sub_self, List.take_zero, List.append_nil] at hstart
    exact hdigit.mp hd (String.ofList_inj.mp hstart)
  · rw [hnamed.wordBefore_eq hrow hfrom hto, not_ne_iff.mp (hdigit.not.mp hd), List.nil_append]

theorem word_before_occurrence_hex :
    let text := "n = 0xff"
    let o : Occurrence := ⟨"xff", 0, 5, false⟩
    ∃ s, summarize text = .ok s ∧ o ∈ s.occurrences ∧ o.FollowsDigit text.toList ∧
      ¬∀ column, o.column ≤ column → column ≤ o.endColumn →
        wordBefore text o.line column = String.ofList (o.name.toList.take (column - o.column)) := by
  intro text o
  have hs : summarize text = .ok ⟨1, [⟨"n",0,0⟩], [], [⟨"n",0,0,true⟩, o]⟩ := by decide +kernel
  have ho : o ∈ [⟨"n",0,0,true⟩, o] := by simp
  have hline : (Text.lines text.toList)[o.line]? = some text.toList := by decide +kernel
  have hdigit : o.FollowsDigit text.toList := ⟨_, 4, '0', hline, rfl, by decide, by decide⟩
  exact ⟨_, hs, ho, hdigit, fun hall => (word_before_occurrence hs ho).2.mp hall hdigit⟩

theorem word_begins_before_name : ¬∀ (text : String) (s : Summary), summarize text = .ok s → ∀ o ∈ s.occurrences,
    ∀ column, o.column ≤ column → column ≤ o.endColumn →
      wordBefore text o.line column = String.ofList (o.name.toList.take (column - o.column)) := by
  intro h
  have hs : summarize "n = 0xff" = .ok ⟨1, [⟨"n",0,0⟩], [], [⟨"n",0,0,true⟩, ⟨"xff",0,5,false⟩]⟩ := by
    decide +kernel
  exact absurd (h _ _ hs ⟨"xff",0,5,false⟩ (by simp) 6 (by decide) (by decide)) (by decide)

end LiveAnalysis.Source
