import LiveAnalysis.Proofs.Definitions
import LiveAnalysis.Proofs.Nesting

namespace LiveAnalysis.Source

/-- The brackets of the code before a place of the text. -/
def bracketsBefore (text : List Char) (number column : Nat) : List (Char × Nat) :=
  bracketsFrom 0 ((rows (marked text)).take number) ++
    rowBrackets number (((rows (marked text))[number]?.getD []).take column)

def AtDepthZero (text : List Char) (number column : Nat) : Prop :=
  Nests ((bracketsBefore text number column).map Prod.fst)

structure Assigns (line lead name rest : List Char) : Prop where
  line : line = lead ++ (name ++ rest)
  blank : ∀ c ∈ lead, Text.isBlank c = true
  first : ∃ c tail, name = c :: tail ∧ startsName c = true
  chars : ∀ c ∈ name, isNameChar c = true
  noKeyword : isKeyword (String.ofList name) = false
  assigned : startsAssignment (Text.trimStart rest) = true

theorem not_isNameChar_of_assigned {rest : List Char} (h : startsAssignment (Text.trimStart rest) = true) :
    ∀ c ∈ rest.head?, isNameChar c = false := by
  rintro c hc
  obtain ⟨tail,rfl⟩ := List.head?_eq_some_iff.mp hc
  by_cases hb : Text.isBlank c = true
  · exact not_isNameChar_of_isBlank hb
  · rw [Text.trimStart, List.dropWhile_cons_of_neg hb] at h
    have hc : c = '=' := by
      unfold startsAssignment at h
      split at h <;> simp_all
    subst hc
    decide

namespace Assigns

variable {line lead name rest : List Char} (h : Assigns line lead name rest)

include h

theorem not_blank : ∀ c ∈ (name ++ rest).head?, Text.isBlank c = false := by
  obtain ⟨c,tail,rfl,hc⟩ := h.first
  rintro d ⟨⟩
  refine eq_false_of_ne_true fun hb => ?_
  have hn := not_isNameChar_of_isBlank hb
  rw [(startsName_iff.mp hc).1] at hn
  cases hn

theorem boundName? : Source.boundName? line (tokens line) = some ⟨lead.length, String.ofList name⟩ := by
  have hhead := head_tokens h.blank h.first h.chars (not_isNameChar_of_assigned h.assigned)
  rw [← h.line] at hhead
  refine boundName?_eq_some.mpr ⟨hhead, h.noKeyword, rest, ?_, h.assigned⟩
  rw [h.line, trimStart_eq h.blank h.not_blank, String.toList_ofList]

end Assigns

theorem assigns_of_bound {line : List Char} {t : Token} (h : boundName? line (tokens line) = some t) :
    ∃ lead rest, Assigns line lead t.name.toList rest ∧ t.column = lead.length := by
  obtain ⟨-,hk,rest,hline,ha⟩ := boundName?_eq_some.mp h
  obtain ⟨front,numeral,name,behind,hn,he⟩ := mem_tokensFrom.mp (boundName?_mem h)
  have hname : t.name.toList = name := by rw [he, String.toList_ofList]
  have hassigns : Assigns line (line.takeWhile Text.isBlank) t.name.toList rest := by
    refine ⟨?_, fun c hc => List.mem_takeWhile_imp hc, hname ▸ hn.first, hname ▸ hn.name, ?_, ha⟩
    · rw [← hline]
      exact (List.takeWhile_append_dropWhile).symm
    · rwa [String.ofList_toList]
  exact ⟨_, rest, hassigns, congrArg Token.column (Option.some.inj (h.symm.trans hassigns.boundName?))⟩

theorem not_isBracket_of_isBlank {c : Char} (h : Text.isBlank c = true) : isBracket c = false := by
  refine eq_false_of_ne_true fun hb => absurd h (ne_true_of_eq_false ?_)
  simp only [isBracket, isOpening, isClosing, Bool.or_eq_true, decide_eq_true_eq] at hb
  rcases hb with ((rfl | rfl) | rfl) | (rfl | rfl) | rfl <;> decide

theorem rowBrackets_blank {row : List (Char × Kind)} {lead behind : List Char} (h : Blanked row (lead ++ behind))
    (hlead : ∀ c ∈ lead, Text.isBlank c = true) (number : Nat) : rowBrackets number (row.take lead.length) = [] := by
  refine List.map_eq_nil_iff.mpr (List.filter_eq_nil_iff.mpr fun p hp hb => ?_)
  obtain ⟨c,kind⟩ := p
  simp only [Bool.and_eq_true, decide_eq_true_eq] at hb
  obtain ⟨rfl,hb⟩ := hb
  obtain ⟨i,hi⟩ := List.mem_iff_getElem?.mp hp
  have hin : i < lead.length := by
    have hlen := (List.getElem?_eq_some_iff.mp hi).1
    rw [List.length_take] at hlen
    omega
  rw [List.getElem?_take_of_lt hin] at hi
  have hcode := h.getElem?_code hi
  rw [List.getElem?_append_left hin] at hcode
  have hblank := not_isBracket_of_isBlank (hlead c (List.mem_of_getElem? hcode))
  rw [hb] at hblank
  cases hblank

theorem Summary.bindings_assign {lines : List (List Char)} {b : Binding} : b ∈ (ofLines 0 lines).bindings ↔
    ∃ line lead rest, lines[b.line]? = some line ∧ Assigns line lead b.name.toList rest ∧ b.column = lead.length := by
  rw [bindings_iff]
  constructor
  · rintro ⟨line,t,hline,ht,he⟩
    obtain ⟨lead,rest,hassigns,hcolumn⟩ := assigns_of_bound ht
    rw [he]
    exact ⟨line, lead, rest, hline, hassigns, hcolumn⟩
  · rintro ⟨line,lead,rest,hline,hassigns,hcolumn⟩
    refine ⟨line, _, hline, hassigns.boundName?, ?_⟩
    rw [String.ofList_toList, ← hcolumn]

theorem bracketsBefore_assigned {text line lead name rest : List Char} {number : Nat}
    (hline : (codeLines text)[number]? = some line) (h : Assigns line lead name rest) :
    bracketsBefore text number lead.length = bracketsBefore text number 0 := by
  obtain ⟨row,hrow,hcode⟩ := codeLine_iff.mp hline
  have hblanked := blanked_row hrow
  rw [hcode, h.line] at hblanked
  rw [bracketsBefore, bracketsBefore, hrow, Option.getD_some, rowBrackets_blank hblanked h.blank]
  rfl

theorem bindings_open_lines {text : String} {s : Summary} (h : summarize text = .ok s) :
    (∀ b, b ∈ s.bindings ↔ ∃ line lead rest, (codeLines text.toList)[b.line]? = some line ∧
      Assigns line lead b.name.toList rest ∧ b.column = lead.length) ∧
    ∀ b ∈ s.bindings, bracketsBefore text.toList b.line b.column = bracketsBefore text.toList b.line 0 ∧
      (AtDepthZero text.toList b.line b.column ↔ AtDepthZero text.toList b.line 0) := by
  cases summarize_ok h
  refine ⟨fun b => Summary.bindings_assign, fun b hb => ?_⟩
  obtain ⟨line,lead,rest,hline,hassigns,hcolumn⟩ := Summary.bindings_assign.mp hb
  have hsame := bracketsBefore_assigned hline hassigns
  rw [← hcolumn] at hsame
  exact ⟨hsame, by rw [AtDepthZero, AtDepthZero, hsame]⟩

theorem bindings_open_lines_argument :
    let text := "f(\n  a = 1)\nb = 2"
    ∃ s, summarize text = .ok s ∧ ⟨"a",1,2⟩ ∈ s.bindings ∧ ⟨"b",2,0⟩ ∈ s.bindings ∧
      bracketsBefore text.toList 1 2 = bracketsBefore text.toList 1 0 ∧ ¬AtDepthZero text.toList 1 2 ∧
      AtDepthZero text.toList 2 0 := by
  intro text
  have hs : summarize text = .ok ⟨3, [⟨"a",1,2⟩, ⟨"b",2,0⟩], [], [⟨"f",0,0,false⟩, ⟨"a",1,2,true⟩, ⟨"b",2,0,true⟩]⟩ := by
    decide +kernel
  obtain ⟨-,hdepth⟩ := bindings_open_lines hs
  obtain ⟨hsame,hiff⟩ := hdepth ⟨"a",1,2⟩ (by simp)
  have hopen : bracketsBefore text.toList 1 0 = [('(',0)] := by decide +kernel
  have hclosed : bracketsBefore text.toList 2 0 = [('(',0), (')',1)] := by decide +kernel
  refine ⟨_, hs, by simp, by simp, hsame, fun h => ?_, ?_⟩
  · have h := hiff.mp h
    rw [AtDepthZero, hopen, nests_iff] at h
    cases h
  · rw [AtDepthZero, hclosed, nests_iff]
    rfl

theorem argument_bound : ¬∀ (text : String) (s : Summary), summarize text = .ok s → ∀ b ∈ s.bindings,
    AtDepthZero text.toList b.line b.column := by
  intro h
  have hs : summarize "f(\na = 1\n)" = .ok ⟨3, [⟨"a",1,0⟩], [], [⟨"f",0,0,false⟩, ⟨"a",1,0,true⟩]⟩ := by decide +kernel
  have hb := h _ _ hs ⟨"a",1,0⟩ (by simp)
  have hopen : bracketsBefore "f(\na = 1\n)".toList 1 0 = [('(',0)] := by decide +kernel
  rw [AtDepthZero, hopen, nests_iff] at hb
  cases hb

end LiveAnalysis.Source
