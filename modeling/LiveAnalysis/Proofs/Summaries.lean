import LiveAnalysis.Source.Summary
import LiveAnalysis.Proofs.Blanks

namespace LiveAnalysis.Source

theorem summarize_ok {text : String} {s : Summary} (h : summarize text = .ok s) :
    s = Summary.ofLines 0 (codeLines text.toList) := by
  unfold summarize at h
  cases hc : checkBrackets (codeLines text.toList) with
  | error fault => simp [hc, bind, Except.bind] at h
  | ok => simpa [hc, bind, Except.bind, pure, Except.pure, eq_comm] using h

namespace Summary

theorem ofLines_parts (number : Nat) (lines : List (List Char)) :
    (ofLines number lines).bindings = (lines.zipIdx number).flatMap (fun p => (ofLine p.2 p.1).bindings) ∧
    (ofLines number lines).functions = (lines.zipIdx number).flatMap (fun p => (ofLine p.2 p.1).functions) ∧
    (ofLines number lines).occurrences = (lines.zipIdx number).flatMap fun p => (ofLine p.2 p.1).occurrences := by
  induction lines generalizing number with
  | nil => exact ⟨rfl,rfl,rfl⟩
  | cons line lines ih => simp [ofLines, append, ih]

theorem numbers_ascend (lines : List (List Char)) : (lines.zipIdx 0).Pairwise fun p q => p.2 < q.2 := by
  have hnumbers : ((lines.zipIdx 0).map Prod.snd).Pairwise (· < ·) := by
    rw [List.zipIdx_map_snd]
    exact List.pairwise_lt_range' 1
  exact List.pairwise_map.mp hnumbers

variable {lines : List (List Char)}

theorem mem_bindings {b : Binding} : b ∈ (ofLines 0 lines).bindings ↔
    ∃ number line, lines[number]? = some line ∧ b ∈ (ofLine number line).bindings := by
  simp only [(ofLines_parts 0 lines).1, List.mem_flatMap, List.mem_zipIdx_iff_getElem?, Prod.exists]
  exact exists_comm

theorem mem_functions {f : Function} : f ∈ (ofLines 0 lines).functions ↔
    ∃ number line, lines[number]? = some line ∧ f ∈ (ofLine number line).functions := by
  simp only [(ofLines_parts 0 lines).2.1, List.mem_flatMap, List.mem_zipIdx_iff_getElem?, Prod.exists]
  exact exists_comm

theorem mem_occurrences {o : Occurrence} : o ∈ (ofLines 0 lines).occurrences ↔
    ∃ number line, lines[number]? = some line ∧ o ∈ (ofLine number line).occurrences := by
  simp only [(ofLines_parts 0 lines).2.2, List.mem_flatMap, List.mem_zipIdx_iff_getElem?, Prod.exists]
  exact exists_comm

end Summary

end LiveAnalysis.Source
