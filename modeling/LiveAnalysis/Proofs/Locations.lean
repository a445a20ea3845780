import LiveAnalysis.Editor.Answer
import LiveAnalysis.Proofs.Occurrences

namespace LiveAnalysis.Editor

open Source (Occurrence Summary)

structure InReach (text : List Char) : Prop where
  lines : (Text.lines text).length < UInt32.size
  width : ∀ line ∈ Text.lines text, line.length < UInt32.size

structure Range.Holds (r : Range) (p : Position) : Prop where
  line : p.line = r.start.line ∧ p.line = r.stop.line
  above : r.start.character ≤ p.character
  below : p.character ≤ r.stop.character

/-- One range ends before the other begins, and not right before it. -/
def Range.Before (r r' : Range) : Prop :=
  r.stop.line < r'.start.line ∨ r.stop.line = r'.start.line ∧ r.stop.character < r'.start.character

def Range.covered (text : List Char) (r : Range) : List Char :=
  (((Text.lines text)[r.start.line.toNat]?.getD []).drop r.start.character.toNat).take
    (r.stop.character.toNat - r.start.character.toNat)

def marksDefinition (s : Summary) (r : Range) : Bool :=
  s.occurrences.any fun o => o.isDefinition && Range.ofOccurrence o = r

theorem Range.Before.not_holds {r r' : Range} (h : r.Before r') {p : Position} (hr : r.Holds p) : ¬r'.Holds p := by
  intro hr'
  rcases h with hline | ⟨-,hcharacter⟩
  · rw [← hr.line.2, ← hr'.line.1] at hline
    exact UInt32.lt_irrefl _ hline
  · exact UInt32.lt_irrefl _ (UInt32.lt_of_le_of_lt hr.below (UInt32.lt_of_lt_of_le hcharacter hr'.above))

theorem find?_unique {α : Type} {l : List α} {f : α → Bool}
    (h : ∀ x ∈ l, ∀ y ∈ l, f x = true → f y = true → x = y) {x : α} : l.find? f = some x ↔ x ∈ l ∧ f x = true := by
  refine ⟨fun hx => ⟨List.mem_of_find?_eq_some hx, List.find?_some hx⟩, fun ⟨hx,hf⟩ => ?_⟩
  obtain ⟨y,hy⟩ := Option.isSome_iff_exists.mp (List.find?_isSome.mpr ⟨x,hx,hf⟩)
  rw [hy, h y (List.mem_of_find?_eq_some hy) x hx (List.find?_some hy) hf]

section Occurrences

variable {text : String} {s : Summary} (h : Source.summarize text = .ok s)

include h

theorem stands {o : Occurrence} (ho : o ∈ s.occurrences) : o.Stands text.toList := by
  obtain ⟨row,front,numeral,behind,hrow,hnamed⟩ := Source.occurrence_named h ho
  exact hnamed.stands hrow

variable (hr : InReach text.toList)

include hr

theorem reached {o : Occurrence} (ho : o ∈ s.occurrences) : o.line < UInt32.size ∧ o.endColumn < UInt32.size := by
  obtain ⟨line,hline,hend,-⟩ := (stands h ho).written
  obtain ⟨hnumber,-⟩ := List.getElem?_eq_some_iff.mp hline
  have hwidth := hr.width line (List.mem_of_getElem? hline)
  exact ⟨Nat.lt_trans hnumber hr.lines, Nat.lt_of_le_of_lt hend hwidth⟩

theorem ofOccurrence_toNat {o : Occurrence} (ho : o ∈ s.occurrences) :
    (Range.ofOccurrence o).start.line.toNat = o.line ∧ (Range.ofOccurrence o).start.character.toNat = o.column ∧
      (Range.ofOccurrence o).stop.line.toNat = o.line ∧ (Range.ofOccurrence o).stop.character.toNat = o.endColumn := by
  obtain ⟨hline,hend⟩ := reached h hr ho
  have hcolumn : o.column < UInt32.size := Nat.lt_of_le_of_lt (Nat.le_add_right _ _) hend
  exact ⟨UInt32.toNat_ofNat_of_lt' hline, UInt32.toNat_ofNat_of_lt' hcolumn, UInt32.toNat_ofNat_of_lt' hline,
    UInt32.toNat_ofNat_of_lt' hend⟩

theorem holds_iff {o : Occurrence} (ho : o ∈ s.occurrences) {p : Position} : (Range.ofOccurrence o).Holds p ↔
    o.line = p.line.toNat ∧ o.column ≤ p.character.toNat ∧ p.character.toNat ≤ o.endColumn := by
  obtain ⟨hline,hstart,hline',hstop⟩ := ofOccurrence_toNat h hr ho
  constructor
  · intro hp
    refine ⟨?_, ?_, ?_⟩
    · rw [hp.line.1, hline]
    · rw [← hstart]
      exact UInt32.le_iff_toNat_le.mp hp.above
    · rw [← hstop]
      exact UInt32.le_iff_toNat_le.mp hp.below
  · rintro ⟨hl,habove,hbelow⟩
    refine ⟨⟨UInt32.toNat_inj.mp ?_, UInt32.toNat_inj.mp ?_⟩, UInt32.le_iff_toNat_le.mpr ?_, UInt32.le_iff_toNat_le.mpr ?_⟩
    · rw [hline, hl]
    · rw [hline', hl]
    · rwa [hstart]
    · rwa [hstop]

theorem ranges_before : s.occurrences.Pairwise fun o o' => (Range.ofOccurrence o).Before (Range.ofOccurrence o') := by
  have hbefore : s.occurrences.Pairwise Occurrence.Before := by
    cases Source.summarize_ok h
    exact Source.occurrences_before _
  refine hbefore.imp_of_mem fun {o o'} ho ho' hb => ?_
  obtain ⟨-,-,hline,hstop⟩ := ofOccurrence_toNat h hr ho
  obtain ⟨hline',hstart,-,-⟩ := ofOccurrence_toNat h hr ho'
  rcases hb with hlt | ⟨heq,-,hend⟩
  · refine .inl (UInt32.lt_iff_toNat_lt.mpr ?_)
    rwa [hline, hline']
  · refine .inr ⟨UInt32.toNat_inj.mp ?_, UInt32.lt_iff_toNat_lt.mpr ?_⟩
    · rw [hline, hline', heq]
    · rwa [hstop, hstart]

theorem apart (p : Position) :
    s.occurrences.Pairwise fun o o' => (Range.ofOccurrence o).Holds p → ¬(Range.ofOccurrence o').Holds p :=
  (ranges_before h hr).imp fun hb => hb.not_holds

theorem occurrence_unique {o o' : Occurrence} (ho : o ∈ s.occurrences) (ho' : o' ∈ s.occurrences) {p : Position}
    (hp : (Range.ofOccurrence o).Holds p) (hp' : (Range.ofOccurrence o').Holds p) : o = o' := by
  have hsame : ∀ o ∈ s.occurrences, ∀ o' ∈ s.occurrences, (Range.ofOccurrence o).Holds p →
      (Range.ofOccurrence o').Holds p → o = o' := by
    refine List.Pairwise.forall_of_forall_of_flip (fun _ _ _ _ => rfl) ?_ ?_
    · exact (apart h hr p).imp fun hn hp hp' => absurd hp' (hn hp)
    · exact (apart h hr p).imp fun hn hp' hp => absurd hp' (hn hp)
  exact hsame o ho o' ho' hp hp'

theorem ofOccurrence_inj {o o' : Occurrence} (ho : o ∈ s.occurrences) (ho' : o' ∈ s.occurrences)
    (he : Range.ofOccurrence o = Range.ofOccurrence o') : o = o' := by
  obtain ⟨hline,hstart,-,-⟩ := ofOccurrence_toNat h hr ho
  have hp : (Range.ofOccurrence o).Holds (Range.ofOccurrence o).start :=
    (holds_iff h hr ho).mpr ⟨hline.symm, Nat.le_of_eq hstart.symm, hstart.symm ▸ Nat.le_add_right _ _⟩
  exact occurrence_unique h hr ho ho' hp (he ▸ hp)

theorem nameAt?_eq_some {p : Position} {o : Occurrence} :
    nameAt? s p = some o ↔ o ∈ s.occurrences ∧ (Range.ofOccurrence o).Holds p := by
  have hheld : ∀ o ∈ s.occurrences, (o.line = p.line.toNat && o.column ≤ p.character.toNat &&
      p.character.toNat ≤ o.endColumn) = true ↔ (Range.ofOccurrence o).Holds p := by
    intro o ho
    rw [holds_iff h hr ho]
    simp [and_assoc]
  rw [nameAt?, Summary.occurrenceAt?, find?_unique fun o ho o' ho' hp hp' =>
    occurrence_unique h hr ho ho' ((hheld o ho).mp hp) ((hheld o' ho').mp hp')]
  exact and_congr_right fun ho => hheld o ho

theorem covered_ofOccurrence {o : Occurrence} (ho : o ∈ s.occurrences) :
    (Range.ofOccurrence o).covered text.toList = o.name.toList := by
  obtain ⟨line,hline,-,hname⟩ := (stands h ho).written
  obtain ⟨hnumber,hstart,-,hstop⟩ := ofOccurrence_toNat h hr ho
  rw [Range.covered, hnumber, hstart, hstop, hline]
  exact hname

theorem marksDefinition_ofOccurrence {o : Occurrence} (ho : o ∈ s.occurrences) :
    marksDefinition s (Range.ofOccurrence o) = o.isDefinition := by
  rw [Bool.eq_iff_iff, marksDefinition, List.any_eq_true]
  constructor
  · rintro ⟨o',ho',hd⟩
    rw [Bool.and_eq_true, decide_eq_true_eq] at hd
    exact ofOccurrence_inj h hr ho' ho hd.2 ▸ hd.1
  · intro hd
    exact ⟨o, ho, by simp [hd]⟩

end Occurrences

theorem references_of_name {s : Summary} {p : Position} {o : Occurrence} (h : nameAt? s p = some o) (id : DocumentId)
    (definitions : Bool) : references s id p definitions =
      (s.references o.name definitions).map fun o' => ⟨id, Range.ofOccurrence o'⟩ := by
  rw [references, h]

theorem mem_references {s : Summary} {p : Position} {o : Occurrence} (h : nameAt? s p = some o) {id : DocumentId}
    {l : Location} : l ∈ references s id p true ↔
      ∃ o' ∈ s.occurrences, o'.name = o.name ∧ l = ⟨id, Range.ofOccurrence o'⟩ := by
  rw [references_of_name h, List.mem_map]
  simp [Summary.references, and_assoc, eq_comm (a := l)]

theorem references_consistent {text : String} {s : Summary} (h : Source.summarize text = .ok s)
    (hr : InReach text.toList) (id : DocumentId) (p : Position) :
    (s.occurrences.Pairwise fun o o' => (Range.ofOccurrence o).Holds p → ¬(Range.ofOccurrence o').Holds p) ∧
    (∀ o, nameAt? s p = some o ↔ o ∈ s.occurrences ∧ (Range.ofOccurrence o).Holds p) ∧
    (∀ o, nameAt? s p = some o →
      ⟨id, Range.ofOccurrence o⟩ ∈ references s id p true ∧
      (∀ l, l ∈ references s id p true ↔
        ∃ o' ∈ s.occurrences, o'.name = o.name ∧ l = ⟨id, Range.ofOccurrence o'⟩) ∧
      (references s id p true).Pairwise (fun l l' => l.range.Before l'.range) ∧
      (∀ l ∈ references s id p true, ∀ q, l.range.Holds q →
        ∀ definitions, references s id q definitions = references s id p definitions) ∧
      references s id p false = (references s id p true).filter fun l => !marksDefinition s l.range) ∧
    ∀ hover, hover? s p = some hover → hover.range.Holds p ∧
      ∃ o, nameAt? s p = some o ∧ hover.range.covered text.toList = o.name.toList := by
  refine ⟨apart h hr p, fun o => nameAt?_eq_some h hr, fun o hname => ⟨?_, fun l => mem_references hname, ?_, ?_, ?_⟩, ?_⟩
  · exact (mem_references hname).mpr ⟨o, ((nameAt?_eq_some h hr).mp hname).1, rfl, rfl⟩
  · rw [references_of_name hname, List.pairwise_map]
    exact (ranges_before h hr).filter _
  · intro l hl q hq definitions
    obtain ⟨o',ho',hsame,rfl⟩ := (mem_references hname).mp hl
    have hname' := (nameAt?_eq_some h hr).mpr ⟨ho',hq⟩
    rw [references_of_name hname', references_of_name hname, hsame]
  · rw [references_of_name hname, references_of_name hname, List.filter_map, Summary.references, Summary.references,
      List.filter_filter]
    refine congrArg _ (List.filter_congr fun o' ho' => ?_)
    simp [marksDefinition_ofOccurrence h hr ho', Bool.and_comm]
  · intro hover hh
    obtain ⟨o,hname,hh⟩ := Option.bind_eq_some_iff.mp hh
    obtain ⟨said,-,hh⟩ := Option.bind_eq_some_iff.mp hh
    cases hh
    obtain ⟨ho,hp⟩ := (nameAt?_eq_some h hr).mp hname
    exact ⟨hp, o, hname, covered_ofOccurrence h hr ho⟩

theorem references_consistent_end :
    let text := "ab = 1\nf(ab)"
    let s : Summary := ⟨2, [⟨"ab",0,0⟩], [], [⟨"ab",0,0,true⟩, ⟨"f",1,0,false⟩, ⟨"ab",1,2,false⟩]⟩
    let id : DocumentId := ⟨"file:///a.py"⟩
    let there : Location := ⟨id, ⟨⟨1,2⟩, ⟨1,4⟩⟩⟩
    Source.summarize text = .ok s ∧ InReach text.toList ∧ nameAt? s ⟨0,2⟩ = some ⟨"ab",0,0,true⟩ ∧
      there ∈ references s id ⟨0,2⟩ true ∧ there.range.Holds ⟨1,3⟩ ∧
      references s id ⟨1,3⟩ false = references s id ⟨0,2⟩ false ∧
      ∃ hover, hover? s ⟨0,2⟩ = some hover ∧ hover.range.Holds ⟨0,2⟩ := by
  intro text s id there
  have hs : Source.summarize text = .ok s := by decide +kernel
  have hlines : Text.lines text.toList = ["ab = 1".toList, "f(ab)".toList] := by decide +kernel
  have hr : InReach text.toList := ⟨by rw [hlines]; decide, by rw [hlines]; decide⟩
  obtain ⟨-,hname,hall,hhover⟩ := references_consistent hs hr id ⟨0,2⟩
  have hat := (hname ⟨"ab",0,0,true⟩).mpr ⟨by decide, ⟨by decide, by decide, by decide⟩⟩
  obtain ⟨-,hmem,-,hsame,-⟩ := hall _ hat
  have hthere := (hmem there).mpr ⟨⟨"ab",1,2,false⟩, by decide, rfl, by decide⟩
  have hholds : there.range.Holds ⟨1,3⟩ := ⟨by decide, by decide, by decide⟩
  have hsaid : (hover? s ⟨0,2⟩).isSome = true := by decide +kernel
  obtain ⟨hover,hh⟩ := Option.isSome_iff_exists.mp hsaid
  exact ⟨hs, hr, hat, hthere, hholds, hsame there hthere _ hholds false, hover, hh, (hhover hover hh).1⟩

end LiveAnalysis.Editor
