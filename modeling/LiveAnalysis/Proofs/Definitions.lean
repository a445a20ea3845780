import Mathlib.Data.List.Nodup
import Mathlib.Data.List.Pairwise
import LiveAnalysis.Proofs.Occurrences

namespace LiveAnalysis.Source

def Occurrence.marks (o : Occurrence) (b : Binding) : Bool :=
  o.isDefinition && o.line = b.line && o.column = b.column && o.name = b.name

def Occurrence.heads (o : Occurrence) (f : Function) : Bool :=
  o.isDefinition && o.line = f.line && o.name = f.name

theorem Occurrence.marks_iff {o : Occurrence} {b : Binding} : o.marks b = true ↔
    o = ⟨b.name, b.line, b.column, true⟩ := by
  cases o
  simp [marks]
  tauto

theorem Occurrence.heads_iff {o : Occurrence} {f : Function} : o.heads f = true ↔
    o = ⟨f.name, f.line, o.column, true⟩ := by
  cases o
  simp [heads]
  tauto

theorem countP_one {α : Type} {p : α → Bool} {l : List α} (hn : l.Nodup) {x : α} (hx : x ∈ l) (hp : p x = true)
    (hu : ∀ y ∈ l, p y = true → y = x) : l.countP p = 1 := by
  classical
  have hsame : l.countP p = l.count x := by
    refine List.countP_congr fun y hy => ?_
    rw [beq_iff_eq]
    exact ⟨hu y hy, fun he => he ▸ hp⟩
  rw [hsame, List.count_eq_one_of_mem hn hx]

theorem blank_apart : ∀ p ∈ Text.blankRanges, ∀ q ∈ Text.alphanumericRanges, p.2 < q.1 ∨ q.2 < p.1 := by
  decide +kernel

theorem blank_apart_low : ∀ n < 128, Text.isBlank (Char.ofNat n) = true → (Char.ofNat n).isAlphanum = false := by
  decide +kernel

theorem not_isNameChar_of_isBlank {c : Char} (h : Text.isBlank c = true) : isNameChar c = false := by
  have hline : c ≠ '_' := by
    rintro rfl
    exact absurd h (by decide)
  simp only [isNameChar, hline, decide_false, Bool.false_or]
  unfold Text.isAlphanumeric
  split
  case isTrue hlow =>
    have hc := blank_apart_low c.toNat hlow
    rw [Char.ofNat_toNat] at hc
    exact hc h
  case isFalse =>
    refine eq_false_of_ne_true fun ha => ?_
    obtain ⟨p,hp,hin⟩ := List.any_eq_true.mp h
    obtain ⟨q,hq,hin'⟩ := List.any_eq_true.mp ha
    simp only [Bool.and_eq_true, decide_eq_true_eq] at hin hin'
    have hapart := blank_apart p hp q hq
    omega

theorem trimStart_eq {lead cs : List Char} (hlead : ∀ c ∈ lead, Text.isBlank c = true)
    (hcs : ∀ c ∈ cs.head?, Text.isBlank c = false) : Text.trimStart (lead ++ cs) = cs := by
  rw [Text.trimStart, List.dropWhile_append_of_pos hlead]
  cases cs with
  | nil => rfl
  | cons c cs => rw [List.dropWhile_cons_of_neg (ne_true_of_eq_false (hcs c rfl))]

theorem tokensFrom_blank (column : Nat) {lead : List Char} (h : ∀ c ∈ lead, Text.isBlank c = true) (cs : List Char) :
    tokensFrom column (lead ++ cs) = tokensFrom (column + lead.length) cs := by
  induction lead generalizing column with
  | nil => rfl
  | cons c lead ih =>
    obtain ⟨hc,hlead⟩ := List.forall_mem_cons.mp h
    have hstart : startsName c ≠ true := fun hs => by
      have hn := not_isNameChar_of_isBlank hc
      rw [(startsName_iff.mp hs).1] at hn
      cases hn
    rw [List.cons_append, tokensFrom, if_neg hstart, ih (column + 1) hlead, List.length_cons]
    congr 1
    omega

theorem head_tokens {lead name rest : List Char} (hlead : ∀ c ∈ lead, Text.isBlank c = true)
    (hfirst : ∃ c tail, name = c :: tail ∧ startsName c = true) (hname : ∀ c ∈ name, isNameChar c = true)
    (hrest : ∀ c ∈ rest.head?, isNameChar c = false) :
    (tokens (lead ++ (name ++ rest))).head? = some ⟨lead.length, String.ofList name⟩ := by
  obtain ⟨c,tail,rfl,hc⟩ := hfirst
  have hspan := (span_exact (List.forall_mem_cons.mp hname).2 hrest).1
  rw [tokens, tokensFrom_blank 0 hlead, List.cons_append, tokensFrom, if_pos hc]
  simp [hspan]

theorem boundName?_eq_some {line : List Char} {names : List Token} {t : Token} : boundName? line names = some t ↔
    names.head? = some t ∧ isKeyword t.name = false ∧
      ∃ rest, Text.trimStart line = t.name.toList ++ rest ∧ startsAssignment (Text.trimStart rest) = true := by
  unfold boundName?
  cases names.head? with
  | none => simp
  | some first =>
    simp only [Option.bind_eq_bind, Option.bind_some, Option.some.injEq]
    constructor
    · intro h
      split at h
      case isTrue => cases h
      case isFalse hk =>
        obtain ⟨rest,hrest,h⟩ := Option.bind_eq_some_iff.mp h
        split at h
        case isTrue ha =>
          cases h
          exact ⟨rfl, eq_false_of_ne_true hk, rest, (List.append_eq_of_isPrefixOf?_eq_some hrest).symm, ha⟩
        case isFalse => cases h
    · rintro ⟨rfl,hk,rest,hrest,ha⟩
      simp [hk, List.isPrefixOf?_eq_some_iff_append_eq.mpr hrest.symm, ha]

theorem declared?_eq_some {number column : Nat} {line : List Char} {names : List Token} {f : Function}
    (h : declared? number line names = some (column,f)) : f.line = number ∧
      (∃ t, names[1]? = some t ∧ t.column = column ∧ t.name = f.name) ∧
      ∃ rest, Text.trimStart line = "def ".toList ++ rest := by
  unfold declared? at h
  simp only [Option.bind_eq_bind, Option.bind_eq_some_iff] at h
  obtain ⟨rest,hrest,t,ht,_,-,he⟩ := h
  cases he
  exact ⟨rfl, ⟨t, ht, rfl, rfl⟩, rest, (List.append_eq_of_isPrefixOf?_eq_some hrest).symm⟩

theorem bound_not_declared {number : Nat} {line : List Char} {t : Token} (h : boundName? line (tokens line) = some t) :
    declared? number line (tokens line) = none := by
  obtain ⟨hhead,hk,rest,hline,ha⟩ := boundName?_eq_some.mp h
  cases hd : declared? number line (tokens line) with
  | none => rfl
  | some p =>
    obtain ⟨column,f⟩ := p
    obtain ⟨-,-,rest',hcode⟩ := declared?_eq_some hd
    have hsplit : line = line.takeWhile Text.isBlank ++ (['d','e','f'] ++ ' ' :: rest') := by
      conv => lhs; rw [← line.takeWhile_append_dropWhile (p := Text.isBlank)]
      exact congrArg (_ ++ ·) hcode
    have hlead : ∀ c ∈ line.takeWhile Text.isBlank, Text.isBlank c = true := fun c hc => List.mem_takeWhile_imp hc
    have hname : ∀ c ∈ ['d','e','f'], isNameChar c = true := List.all_eq_true.mp (by decide)
    have hrest : ∀ c ∈ (' ' :: rest').head?, isNameChar c = false := by
      rintro c ⟨⟩
      decide
    have hfirst := head_tokens hlead ⟨'d', _, rfl, by decide⟩ hname hrest
    rw [← hsplit, hhead] at hfirst
    cases hfirst
    have hdef : isKeyword (String.ofList ['d','e','f']) = true := by decide
    cases hk.symm.trans hdef

theorem token_unique {line : List Char} {t u : Token} (ht : t ∈ tokens line) (hu : u ∈ tokens line)
    (hc : t.column = u.column) : t = u := by
  have hn : ((tokens line).map (·.column)).Nodup := by
    refine List.pairwise_map.mpr ((tokensFrom_apart 0 line).imp fun h => ?_)
    exact Nat.ne_of_lt (Nat.lt_of_le_of_lt (Nat.le_add_right _ _) h)
  exact List.inj_on_of_nodup_map hn ht hu hc

theorem boundName?_mem {line : List Char} {t : Token} (h : boundName? line (tokens line) = some t) : t ∈ tokens line :=
  List.mem_of_mem_head? (boundName?_eq_some.mp h).1

theorem defines_iff {number : Nat} {line : List Char} {t : Token} (ht : t ∈ tokens line) :
    ((boundName? line (tokens line)).any (·.column = t.column) ||
      (declared? number line (tokens line)).any (·.1 = t.column)) = true ↔
    boundName? line (tokens line) = some t ∨
      ∃ f, declared? number line (tokens line) = some (t.column,f) ∧ f.name = t.name := by
  simp only [Bool.or_eq_true, Option.any_eq_true, decide_eq_true_eq]
  constructor
  · rintro (⟨u,hu,hc⟩ | ⟨⟨column,f⟩,hd,rfl⟩)
    · exact .inl (token_unique (boundName?_mem hu) ht hc ▸ hu)
    · obtain ⟨-,⟨u,hu,hc,hname⟩,-⟩ := declared?_eq_some hd
      obtain rfl := token_unique (List.mem_of_getElem? hu) ht hc
      exact .inr ⟨f, hd, hname.symm⟩
  · rintro (hb | ⟨f,hd,-⟩)
    · exact .inl ⟨t, hb, rfl⟩
    · exact .inr ⟨_, hd, rfl⟩

namespace Summary

variable {lines : List (List Char)}

theorem bindings_iff {b : Binding} : b ∈ (ofLines 0 lines).bindings ↔
    ∃ line t, lines[b.line]? = some line ∧ boundName? line (tokens line) = some t ∧ b = ⟨t.name, b.line, t.column⟩ := by
  rw [mem_bindings]
  constructor
  · rintro ⟨number,line,hline,hb⟩
    obtain ⟨t,ht,rfl⟩ := Option.map_eq_some_iff.mp (Option.mem_toList.mp hb)
    exact ⟨line, t, hline, ht, rfl⟩
  · rintro ⟨line,t,hline,ht,hb⟩
    refine ⟨b.line, line, hline, Option.mem_toList.mpr ?_⟩
    rw [hb]
    exact Option.map_eq_some_iff.mpr ⟨t,ht,rfl⟩

theorem functions_iff {f : Function} : f ∈ (ofLines 0 lines).functions ↔
    ∃ line column, lines[f.line]? = some line ∧ declared? f.line line (tokens line) = some (column,f) := by
  rw [mem_functions]
  constructor
  · rintro ⟨number,line,hline,hf⟩
    obtain ⟨⟨column,f⟩,hd,rfl⟩ := Option.map_eq_some_iff.mp (Option.mem_toList.mp hf)
    obtain rfl := (declared?_eq_some hd).1
    exact ⟨line, column, hline, hd⟩
  · rintro ⟨line,column,hline,hd⟩
    exact ⟨f.line, line, hline, Option.mem_toList.mpr (Option.map_eq_some_iff.mpr ⟨(column,f),hd,rfl⟩)⟩

theorem definitions_iff {name : String} {number column : Nat} :
    ⟨name, number, column, true⟩ ∈ (ofLines 0 lines).occurrences ↔
      ∃ line, lines[number]? = some line ∧ isKeyword name = false ∧ (boundName? line (tokens line) = some ⟨column,name⟩ ∨
        ∃ f, declared? number line (tokens line) = some (column,f) ∧ f.name = name) := by
  rw [mem_occurrences]
  constructor
  · rintro ⟨number,line,hline,ho⟩
    obtain ⟨t,ht,he⟩ := List.mem_map.mp ho
    obtain ⟨ht,hk⟩ := List.mem_filter.mp ht
    simp only [Occurrence.mk.injEq] at he
    obtain ⟨rfl,rfl,rfl,hdefines⟩ := he
    exact ⟨line, hline, by simpa using hk, (defines_iff ht).mp hdefines⟩
  · rintro ⟨line,hline,hk,hdefines⟩
    have ht : ⟨column,name⟩ ∈ tokens line := by
      rcases hdefines with hb | ⟨f,hd,hname⟩
      · exact boundName?_mem hb
      · obtain ⟨-,⟨u,hu,hc,hname'⟩,-⟩ := declared?_eq_some hd
        have hmem := List.mem_of_getElem? hu
        rwa [← hc, ← hname, ← hname']
    have hkept : ⟨column,name⟩ ∈ (tokens line).filter fun t => !isKeyword t.name :=
      List.mem_filter.mpr ⟨ht, by simpa using hk⟩
    refine ⟨number, line, hline, List.mem_map.mpr ⟨_, hkept, ?_⟩⟩
    simp only [Occurrence.mk.injEq, true_and]
    exact (defines_iff ht).mpr hdefines

theorem nodup_flatMap {α : Type} (number : α → Nat) {part : List Char × Nat → Option α}
    (h : ∀ p x, part p = some x → number x = p.2) (lines : List (List Char)) :
    ((lines.zipIdx 0).flatMap fun p => (part p).toList).Nodup := by
  refine List.pairwise_flatMap.mpr ⟨fun p _ => ?_, (numbers_ascend lines).imp fun hlt x hx y hy => ?_⟩
  · cases part p with
    | none => exact .nil
    | some x => exact List.pairwise_singleton _ x
  · rintro rfl
    rw [← h _ x (Option.mem_toList.mp hx), h _ x (Option.mem_toList.mp hy)] at hlt
    exact Nat.lt_irrefl _ hlt

theorem bindings_nodup (lines : List (List Char)) : (ofLines 0 lines).bindings.Nodup := by
  rw [(ofLines_parts 0 lines).1]
  refine nodup_flatMap Binding.line (fun p b hb => ?_) lines
  obtain ⟨t,-,rfl⟩ := Option.map_eq_some_iff.mp hb
  rfl

theorem functions_nodup (lines : List (List Char)) : (ofLines 0 lines).functions.Nodup := by
  rw [(ofLines_parts 0 lines).2.1]
  refine nodup_flatMap Function.line (fun p f hf => ?_) lines
  obtain ⟨⟨column,f⟩,hd,rfl⟩ := Option.map_eq_some_iff.mp hf
  exact (declared?_eq_some hd).1

theorem occurrences_nodup (lines : List (List Char)) : (ofLines 0 lines).occurrences.Nodup := by
  refine (occurrences_before lines).imp fun hb he => ?_
  subst he
  rcases hb with h | ⟨-,h,-⟩ <;> exact Nat.lt_irrefl _ h

theorem binding_defined {b : Binding} (hb : b ∈ (ofLines 0 lines).bindings) :
    ⟨b.name, b.line, b.column, true⟩ ∈ (ofLines 0 lines).occurrences := by
  obtain ⟨line,t,hline,ht,he⟩ := bindings_iff.mp hb
  rw [he]
  exact definitions_iff.mpr ⟨line, hline, (boundName?_eq_some.mp ht).2.1, .inl ht⟩

theorem function_defined {f : Function} (hf : f ∈ (ofLines 0 lines).functions) (hk : isKeyword f.name = false) :
    ∃ column, ⟨f.name, f.line, column, true⟩ ∈ (ofLines 0 lines).occurrences := by
  obtain ⟨line,column,hline,hd⟩ := functions_iff.mp hf
  exact ⟨column, definitions_iff.mpr ⟨line, hline, hk, .inr ⟨f,hd,rfl⟩⟩⟩

theorem marked_once {b : Binding} (hb : b ∈ (ofLines 0 lines).bindings) :
    (ofLines 0 lines).occurrences.countP (·.marks b) = 1 := by
  refine countP_one (occurrences_nodup lines) (binding_defined hb) (Occurrence.marks_iff.mpr rfl) fun o _ hm => ?_
  exact Occurrence.marks_iff.mp hm

theorem bound_or_declared {b : Binding} {f : Function} (hb : b ∈ (ofLines 0 lines).bindings)
    (hf : f ∈ (ofLines 0 lines).functions) : b.line ≠ f.line := by
  intro he
  obtain ⟨line,t,hline,ht,-⟩ := bindings_iff.mp hb
  obtain ⟨line',column,hline',hd⟩ := functions_iff.mp hf
  rw [he] at hline
  cases hline.symm.trans hline'
  rw [bound_not_declared ht] at hd
  cases hd

theorem defined_at {f : Function} {number column : Nat} {line : List Char} (hline : lines[number]? = some line)
    (hd : declared? number line (tokens line) = some (column,f)) {name : String} {column' : Nat}
    (ho : ⟨name, number, column', true⟩ ∈ (ofLines 0 lines).occurrences) : column' = column := by
  obtain ⟨line',hline',-,hb | ⟨f',hd',-⟩⟩ := definitions_iff.mp ho
  · cases hline.symm.trans hline'
    rw [bound_not_declared hb] at hd
    cases hd
  · cases hline.symm.trans hline'
    cases hd.symm.trans hd'
    rfl

theorem headed_once {f : Function} (hf : f ∈ (ofLines 0 lines).functions) :
    (ofLines 0 lines).occurrences.countP (·.heads f) = if isKeyword f.name then 0 else 1 := by
  split
  case isTrue hk =>
    refine List.countP_eq_zero.mpr fun o ho hh => ?_
    rw [Occurrence.heads_iff.mp hh] at ho
    obtain ⟨_,-,hfalse,-⟩ := definitions_iff.mp ho
    cases hk.symm.trans hfalse
  case isFalse hk =>
    obtain ⟨column,ho⟩ := function_defined hf (eq_false_of_ne_true hk)
    refine countP_one (occurrences_nodup lines) ho (Occurrence.heads_iff.mpr rfl) fun o ho' hh => ?_
    rw [Occurrence.heads_iff.mp hh] at ho' ⊢
    obtain ⟨line,_,hline,hd⟩ := functions_iff.mp hf
    rw [defined_at hline hd ho, defined_at hline hd ho']

theorem bound_once {name : String} {number column : Nat} (h : ⟨name,number,column⟩ ∈ (ofLines 0 lines).bindings) :
    (ofLines 0 lines).bindings.countP (Occurrence.marks ⟨name,number,column,true⟩ ·) = 1 := by
  refine countP_one (bindings_nodup lines) h (Occurrence.marks_iff.mpr rfl) fun b _ hm => ?_
  cases b
  cases Occurrence.marks_iff.mp hm
  rfl

theorem declared_once {f : Function} (h : f ∈ (ofLines 0 lines).functions) (column : Nat) :
    (ofLines 0 lines).functions.countP (Occurrence.heads ⟨f.name, f.line, column, true⟩ ·) = 1 := by
  refine countP_one (functions_nodup lines) h (Occurrence.heads_iff.mpr rfl) fun f' hf' hh => ?_
  simp only [Occurrence.heads_iff, Occurrence.mk.injEq] at hh
  obtain ⟨line,_,hline,hd⟩ := functions_iff.mp h
  obtain ⟨line',_,hline',hd'⟩ := functions_iff.mp hf'
  rw [← hh.2.1] at hline' hd'
  cases hline.symm.trans hline'
  cases hd.symm.trans hd'
  rfl

theorem defined_once {o : Occurrence} (ho : o ∈ (ofLines 0 lines).occurrences) (hdef : o.isDefinition = true) :
    (ofLines 0 lines).bindings.countP (o.marks ·) + (ofLines 0 lines).functions.countP (o.heads ·) = 1 := by
  obtain ⟨name,number,column,isDefinition⟩ := o
  cases hdef
  obtain ⟨line,hline,-,hb | ⟨f,hd,hname⟩⟩ := definitions_iff.mp ho
  · have hbound : ⟨name,number,column⟩ ∈ (ofLines 0 lines).bindings := bindings_iff.mpr ⟨line, _, hline, hb, rfl⟩
    rw [bound_once hbound, List.countP_eq_zero.mpr]
    intro f hf hh
    simp only [Occurrence.heads_iff, Occurrence.mk.injEq] at hh
    exact bound_or_declared hbound hf hh.2.1
  · obtain rfl := (declared?_eq_some hd).1
    have hf : f ∈ (ofLines 0 lines).functions := functions_iff.mpr ⟨line, column, hline, hd⟩
    subst hname
    rw [declared_once hf column, List.countP_eq_zero.mpr]
    intro b hb hm
    simp only [Occurrence.marks_iff, Occurrence.mk.injEq] at hm
    exact bound_or_declared hb hf hm.2.1.symm

theorem mem_insertName {name n : String} {names : List String} : n ∈ insertName name names ↔ n = name ∨ n ∈ names := by
  induction names with
  | nil => simp [insertName]
  | cons m names ih =>
    unfold insertName
    split
    · simp
    · split
      case isTrue he => simp [he]
      case isFalse => simp [ih, or_left_comm]

theorem mem_completions {s : Summary} {lead name : String} (h : name ∈ s.completions lead) :
    (∃ b ∈ s.bindings, b.name = name) ∨ ∃ f ∈ s.functions, f.name = name := by
  have hfold : ∀ names : List String, name ∈ names.foldr insertName [] → name ∈ names := by
    intro names
    induction names with
    | nil => exact id
    | cons n names ih =>
      rw [List.foldr_cons, mem_insertName, List.mem_cons]
      exact Or.imp_right ih
  have hname := List.mem_of_mem_filter (hfold _ h)
  simpa [List.mem_append, List.mem_map] using hname

end Summary

theorem mem_references {s : Summary} {name : String} {o : Occurrence} :
    o ∈ s.references name true ↔ o ∈ s.occurrences ∧ o.name = name := by
  simp [Summary.references]

/-- What is on offer is defined somewhere, unless it is a keyword that a declaration takes for its name. -/
theorem offered {text : String} {s : Summary} (h : summarize text = .ok s) {lead name : String}
    (hname : name ∈ s.completions lead) : if isKeyword name then (∃ f ∈ s.functions, f.name = name) ∧ s.references name true = []
    else ∃ o ∈ s.references name true, o.isDefinition = true ∧ o.Stands text.toList := by
  have hword : ∀ o ∈ s.occurrences, isKeyword o.name = false ∧ o.Stands text.toList := by
    intro o ho
    obtain ⟨row,front,numeral,behind,hrow,hnamed⟩ := occurrence_named h ho
    exact ⟨hnamed.noKeyword, hnamed.stands hrow⟩
  have hdefined : isKeyword name = false → ∃ number column, ⟨name, number, column, true⟩ ∈ s.occurrences := by
    intro hk
    cases summarize_ok h
    rcases Summary.mem_completions hname with ⟨b,hb,rfl⟩ | ⟨f,hf,rfl⟩
    · exact ⟨b.line, b.column, Summary.binding_defined hb⟩
    · exact ⟨f.line, Summary.function_defined hf hk⟩
  split
  case isTrue hk =>
    constructor
    · rcases Summary.mem_completions hname with ⟨b,hb,rfl⟩ | hf
      · cases summarize_ok h
        cases hk.symm.trans (hword _ (Summary.binding_defined hb)).1
      · exact hf
    · refine List.eq_nil_iff_forall_not_mem.mpr fun o ho => ?_
      obtain ⟨hmem,hsame⟩ := mem_references.mp ho
      have hfalse := (hword o hmem).1
      rw [hsame, hk] at hfalse
      cases hfalse
  case isFalse hk =>
    obtain ⟨number,column,ho⟩ := hdefined (eq_false_of_ne_true hk)
    exact ⟨_, mem_references.mpr ⟨ho,rfl⟩, rfl, (hword _ ho).2⟩

theorem definitions_correspond {text : String} {s : Summary} (h : summarize text = .ok s) :
    (∀ b ∈ s.bindings, s.occurrences.countP (·.marks b) = 1) ∧
    (∀ f ∈ s.functions, s.occurrences.countP (·.heads f) = if isKeyword f.name then 0 else 1) ∧
    (∀ o ∈ s.occurrences, o.isDefinition = true → s.bindings.countP (o.marks ·) + s.functions.countP (o.heads ·) = 1) ∧
    ∀ lead name, name ∈ s.completions lead →
      if isKeyword name then (∃ f ∈ s.functions, f.name = name) ∧ s.references name true = []
      else ∃ o ∈ s.references name true, o.isDefinition = true ∧ o.Stands text.toList := by
  have hs := summarize_ok h
  refine ⟨?_, ?_, ?_, fun lead name hname => offered h hname⟩
  · rw [hs]
    exact fun b hb => Summary.marked_once hb
  · rw [hs]
    exact fun f hf => Summary.headed_once hf
  · rw [hs]
    exact fun o ho => Summary.defined_once ho

theorem definitions_correspond_keyword :
    let text := "x = 1\ndef f(x):\ndef if(y):\n"
    let odd : Function := ⟨"if", ["y"], 2⟩
    ∃ s, summarize text = .ok s ∧
      (⟨"x",0,0⟩ ∈ s.bindings ∧ s.occurrences.countP (·.marks ⟨"x",0,0⟩) = 1) ∧
      (odd ∈ s.functions ∧ isKeyword odd.name = true ∧ s.occurrences.countP (·.heads odd) = 0) ∧
      ("f" ∈ s.completions "" ∧ ∃ o ∈ s.references "f" true, o.isDefinition = true ∧ o.Stands text.toList) ∧
      ("if" ∈ s.completions "" ∧ s.references "if" true = []) := by
  intro text odd
  have hs : summarize text = .ok ⟨3, [⟨"x",0,0⟩], [⟨"f",["x"],1⟩, odd],
      [⟨"x",0,0,true⟩, ⟨"f",1,4,true⟩, ⟨"x",1,6,false⟩, ⟨"y",2,7,false⟩]⟩ := by
    decide +kernel
  obtain ⟨hbindings,hfunctions,-,hoffered⟩ := definitions_correspond hs
  have hkeyword : isKeyword "if" = true := by decide
  have hplain : ¬isKeyword "f" = true := by decide
  have hodd := hfunctions odd (by simp)
  rw [if_pos hkeyword] at hodd
  have hf := hoffered "" "f" (by decide)
  rw [if_neg hplain] at hf
  have hif := hoffered "" "if" (by decide)
  rw [if_pos hkeyword] at hif
  exact ⟨_, hs, ⟨by simp, hbindings _ (by simp)⟩, ⟨by simp, hkeyword, hodd⟩, ⟨by decide, hf⟩, ⟨by decide, hif.2⟩⟩

theorem keyword_on_offer : ¬∀ (text : String) (s : Summary), summarize text = .ok s →
    (∀ f ∈ s.functions, s.occurrences.countP (·.heads f) = 1) ∧
    ∀ lead name, name ∈ s.completions lead → ∃ o ∈ s.references name true, o.isDefinition = true := by
  intro h
  have hs : summarize "def if(x):" = .ok ⟨1, [], [⟨"if",["x"],0⟩], [⟨"x",0,7,false⟩]⟩ := by decide +kernel
  obtain ⟨o,ho,-⟩ := (h _ _ hs).2 "" "if" (by decide)
  simp [Summary.references] at ho

end LiveAnalysis.Source
