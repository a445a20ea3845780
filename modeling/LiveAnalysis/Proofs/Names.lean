import Mathlib.Data.List.Basic
import Mathlib.Data.List.TakeWhile
import LiveAnalysis.Source.Name

namespace LiveAnalysis.Source

/-- A name on a line. Digits may stand right before it, and then no name character. -/
structure Named (line front numeral name behind : List Char) : Prop where
  line : line = front ++ numeral ++ name ++ behind
  front : ∀ c ∈ front.getLast?, isNameChar c = false
  numeral : ∀ c ∈ numeral, c.isDigit = true
  first : ∃ c tail, name = c :: tail ∧ startsName c = true
  name : ∀ c ∈ name, isNameChar c = true
  behind : ∀ c ∈ behind.head?, isNameChar c = false

theorem isNameChar_of_isDigit {c : Char} (h : c.isDigit = true) : isNameChar c = true := by
  have hc : c.toNat < 128 := by
    simp only [Char.isDigit, Bool.and_eq_true, decide_eq_true_eq] at h
    exact Nat.lt_of_le_of_lt h.2 (by decide)
  simp [isNameChar, Text.isAlphanumeric, hc, Char.isAlphanum, h]

theorem startsName_iff {c : Char} : startsName c = true ↔ isNameChar c = true ∧ c.isDigit = false := by
  simp [startsName]

theorem isDigit_of_not_startsName {c : Char} (h : startsName c ≠ true) (hn : isNameChar c = true) :
    c.isDigit = true := by
  simpa [startsName, hn] using h

theorem head_dropWhile (line : List Char) : ∀ c ∈ (line.dropWhile isNameChar).head?, isNameChar c = false := by
  intro c hc
  have h := List.head?_dropWhile_not isNameChar line
  rwa [Option.mem_def.mp hc] at h

theorem span_exact {names rest : List Char} (hn : ∀ c ∈ names, isNameChar c = true)
    (hr : ∀ c ∈ rest.head?, isNameChar c = false) :
    (names ++ rest).takeWhile isNameChar = names ∧ (names ++ rest).dropWhile isNameChar = rest := by
  rw [List.takeWhile_append_of_pos hn, List.dropWhile_append_of_pos hn]
  cases rest with
  | nil => exact ⟨List.append_nil _, rfl⟩
  | cons c rest => simp [hr c rfl]

namespace Named

variable {c : Char} {rest front numeral name behind : List Char}

theorem here (hc : startsName c = true) :
    Named (c :: rest) [] [] (c :: rest.takeWhile isNameChar) (rest.dropWhile isNameChar) where
  line := by simp
  front := nofun
  numeral := nofun
  first := ⟨c, _, rfl, hc⟩
  name x hx := by
    rcases List.mem_cons.mp hx with rfl | hx
    · exact (startsName_iff.mp hc).1
    · exact List.mem_takeWhile_imp hx
  behind := head_dropWhile rest

theorem front_ne_nil (h : Named (rest.dropWhile isNameChar) front numeral name behind) : front ≠ [] := by
  rintro rfl
  have hhead := head_dropWhile rest
  rw [h.line] at hhead
  cases numeral with
  | nil =>
    obtain ⟨d,tail,rfl,hd⟩ := h.first
    simp [(startsName_iff.mp hd).1] at hhead
  | cons d numeral => simp [isNameChar_of_isDigit (h.numeral d List.mem_cons_self)] at hhead

theorem later (h : Named (rest.dropWhile isNameChar) front numeral name behind) :
    Named (c :: rest) (c :: rest.takeWhile isNameChar ++ front) numeral name behind where
  line := by
    have hline : rest = rest.takeWhile isNameChar ++ (front ++ numeral ++ name ++ behind) := by
      rw [← h.line, List.takeWhile_append_dropWhile]
    simpa using hline
  front d hd := by
    rw [List.getLast?_append_of_ne_nil _ h.front_ne_nil] at hd
    exact h.front d hd
  numeral := h.numeral
  first := h.first
  name := h.name
  behind := h.behind

theorem skip (hc : startsName c ≠ true) (h : Named rest front numeral name behind) :
    ∃ front' numeral', front' ++ numeral' = c :: (front ++ numeral) ∧
      Named (c :: rest) front' numeral' name behind := by
  have hline : c :: rest = c :: front ++ numeral ++ name ++ behind := congrArg (c :: ·) h.line
  by_cases hd : front = [] ∧ isNameChar c = true
  · obtain ⟨rfl,hn⟩ := hd
    refine ⟨[], c :: numeral, rfl, hline, nofun, ?_, h.first, h.name, h.behind⟩
    exact List.forall_mem_cons.mpr ⟨isDigit_of_not_startsName hc hn, h.numeral⟩
  · refine ⟨c :: front, numeral, rfl, hline, fun d hlast => ?_, h.numeral, h.first, h.name, h.behind⟩
    cases front with
    | nil =>
      obtain rfl : c = d := Option.some.inj hlast
      exact eq_false_of_ne_true fun hn => hd ⟨rfl,hn⟩
    | cons e front => exact h.front d hlast

theorem of_skip (hc : startsName c ≠ true) (h : Named (c :: rest) front numeral name behind) :
    ∃ front' numeral', front ++ numeral = c :: (front' ++ numeral') ∧
      Named rest front' numeral' name behind := by
  have hline := h.line
  cases front with
  | cons d front =>
    obtain ⟨rfl,hrest⟩ := List.cons.inj hline
    refine ⟨front, numeral, rfl, hrest, fun e he => ?_, h.numeral, h.first, h.name, h.behind⟩
    cases front with
    | nil => cases he
    | cons => exact h.front e he
  | nil =>
    cases numeral with
    | cons d numeral =>
      obtain ⟨rfl,hrest⟩ := List.cons.inj hline
      refine ⟨[], numeral, rfl, hrest, nofun, ?_, h.first, h.name, h.behind⟩
      exact fun e he => h.numeral e (List.mem_cons_of_mem _ he)
    | nil =>
      obtain ⟨d,tail,rfl,hd⟩ := h.first
      obtain ⟨rfl,-⟩ := List.cons.inj hline
      exact absurd hd hc

theorem of_start (hc : startsName c = true) (h : Named (c :: rest) front numeral name behind) :
    front ++ numeral = [] ∧ name = c :: rest.takeWhile isNameChar ∨
      ∃ front', front = c :: rest.takeWhile isNameChar ++ front' ∧
        Named (rest.dropWhile isNameChar) front' numeral name behind := by
  have hline := h.line
  cases front with
  | nil =>
    cases numeral with
    | nil =>
      obtain ⟨d,tail,rfl,hd⟩ := h.first
      obtain ⟨rfl,hrest⟩ := List.cons.inj hline
      have hn := (List.forall_mem_cons.mp h.name).2
      exact .inl ⟨rfl, congrArg (c :: ·) (hrest ▸ (span_exact hn h.behind).1.symm)⟩
    | cons d numeral =>
      obtain ⟨rfl,-⟩ := List.cons.inj hline
      have hd := h.numeral c List.mem_cons_self
      rw [(startsName_iff.mp hc).2] at hd
      cases hd
  | cons d front =>
    obtain ⟨rfl,hrest⟩ := List.cons.inj hline
    have hdrop : front.dropWhile isNameChar ≠ [] := by
      obtain ⟨d,hd⟩ := Option.isSome_iff_exists.mp (List.getLast?_isSome.mpr (List.cons_ne_nil c front))
      intro hnil
      rcases List.mem_cons.mp (List.mem_of_getLast? hd) with rfl | hm
      · exact absurd (startsName_iff.mp hc).1 (ne_true_of_eq_false (h.front d hd))
      · exact absurd (List.dropWhile_eq_nil_iff.mp hnil d hm) (ne_true_of_eq_false (h.front d hd))
    have hrest' : rest = front ++ (numeral ++ name ++ behind) := by simpa using hrest
    have hd : rest.dropWhile isNameChar = front.dropWhile isNameChar ++ (numeral ++ name ++ behind) := by
      rw [hrest', List.dropWhile_append, if_neg (by simpa using hdrop)]
    have ht : rest.takeWhile isNameChar ++ rest.dropWhile isNameChar =
        front.takeWhile isNameChar ++ rest.dropWhile isNameChar := by
      rw [List.takeWhile_append_dropWhile, hd, ← List.append_assoc, List.takeWhile_append_dropWhile, ← hrest']
    refine .inr ⟨front.dropWhile isNameChar, ?_, ?_, ?_, h.numeral, h.first, h.name, h.behind⟩
    · rw [List.append_cancel_right ht, List.cons_append, List.takeWhile_append_dropWhile]
    · simpa using hd
    · intro d hlast
      refine h.front d ?_
      rw [← front.takeWhile_append_dropWhile (p := isNameChar), ← List.cons_append, List.getLast?_append_of_ne_nil _ hdrop]
      exact hlast

end Named

theorem mem_tokensFrom {column : Nat} {line : List Char} {t : Token} : t ∈ tokensFrom column line ↔
    ∃ front numeral name behind, Named line front numeral name behind ∧
      t = ⟨column + (front ++ numeral).length, String.ofList name⟩ := by
  fun_induction tokensFrom column line with
  | case1 column =>
    refine ⟨nofun, ?_⟩
    rintro ⟨front,numeral,name,behind,h,-⟩
    obtain ⟨c,tail,rfl,-⟩ := h.first
    simpa using h.line
  | case2 column c rest hc tail ih =>
    rw [List.mem_cons, ih]
    constructor
    · rintro (rfl | ⟨front,numeral,name,behind,h,rfl⟩)
      · exact ⟨[], [], _, _, .here hc, rfl⟩
      · refine ⟨_, _, _, _, h.later, ?_⟩
        simp [tail]
        omega
    · rintro ⟨front,numeral,name,behind,h,rfl⟩
      rcases h.of_start hc with ⟨hnil,rfl⟩ | ⟨front',rfl,h'⟩
      · exact .inl (by rw [hnil]; rfl)
      · refine .inr ⟨_, _, _, _, h', ?_⟩
        simp [tail]
        omega
  | case3 column c rest hc ih =>
    rw [ih]
    constructor
    · rintro ⟨front,numeral,name,behind,h,rfl⟩
      obtain ⟨front',numeral',he,h'⟩ := h.skip hc
      exact ⟨_, _, _, _, h', by simp only [he, List.length_cons, Nat.add_assoc, Nat.add_comm 1]⟩
    · rintro ⟨front,numeral,name,behind,h,rfl⟩
      obtain ⟨front',numeral',he,h'⟩ := h.of_skip hc
      exact ⟨_, _, _, _, h', by simp only [he, List.length_cons, Nat.add_assoc, Nat.add_comm 1]⟩

theorem tokensFrom_apart (column : Nat) (line : List Char) :
    (tokensFrom column line).Pairwise fun t u => t.column + t.name.length < u.column := by
  fun_induction tokensFrom column line with
  | case1 => exact .nil
  | case2 column c rest hc tail ih =>
    refine .cons (fun u hu => ?_) ih
    obtain ⟨front,numeral,name,behind,h,rfl⟩ := mem_tokensFrom.mp hu
    have hpos := List.length_pos_iff.mpr h.front_ne_nil
    simp only [String.length_ofList, List.length_cons, List.length_append]
    omega
  | case3 column c rest hc ih => exact ih

end LiveAnalysis.Source
