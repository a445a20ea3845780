import LiveAnalysis.Proofs.Marks

namespace LiveAnalysis.Source

structure Blanked (row : List (Char × Kind)) (code : List Char) : Prop where
  column : ∀ (i : Nat) x, code[i]? = some x → ∃ (c : Char) (kind : Kind), row[i]? = some (c,kind) ∧
    (kind = .code ∧ x = c ∨ kind = .literal ∧ x = ' ')
  cut : code.length = row.findIdx fun p => p.1 = '#' && p.2 ≠ .literal
  cutOff : ∀ p ∈ row.drop code.length, p.2 = .comment
  clean : ∀ x ∈ code, x ≠ '#' ∧ isQuote x = false

namespace Blanked

variable {row : List (Char × Kind)} {code : List Char}

theorem nil : Blanked [] [] := ⟨nofun, rfl, nofun, nofun⟩

theorem keep (h : Blanked row code) {c : Char} (hc : c ≠ '#') (hq : isQuote c = false) :
    Blanked ((c,.code) :: row) (c :: code) where
  column i x hx := by
    cases i with
    | zero => exact ⟨c, .code, rfl, .inl ⟨rfl, (Option.some.inj hx).symm⟩⟩
    | succ i => exact h.column i x hx
  cut := by simp [List.findIdx_cons, hc, h.cut]
  cutOff := h.cutOff
  clean := List.forall_mem_cons.mpr ⟨⟨hc,hq⟩, h.clean⟩

theorem blank (h : Blanked row code) (c : Char) : Blanked ((c,.literal) :: row) (' ' :: code) where
  column i x hx := by
    cases i with
    | zero => exact ⟨c, .literal, rfl, .inr ⟨rfl, (Option.some.inj hx).symm⟩⟩
    | succ i => exact h.column i x hx
  cut := by simp [List.findIdx_cons, h.cut]
  cutOff := h.cutOff
  clean := List.forall_mem_cons.mpr ⟨by decide, h.clean⟩

theorem comment (h : ∀ p ∈ row, p.2 = .comment) : Blanked (('#',.comment) :: row) [] where
  column := nofun
  cut := by simp [List.findIdx_cons]
  cutOff := List.forall_mem_cons.mpr ⟨rfl,h⟩
  clean := nofun

end Blanked

def blanks (row : List (Char × Kind)) : List Char :=
  (row.takeWhile fun p => p.2 ≠ .comment).map fun p => if p.2 = .code then p.1 else ' '

theorem markLine_comment (line : List Char) :
    (∀ p ∈ (markLine .comment line).1, p.2 = .comment) ∧ (markLine .comment line).2 = .code := by
  induction line with
  | nil => exact ⟨nofun,rfl⟩
  | cons c line ih => exact ⟨List.forall_mem_cons.mpr ⟨rfl,ih.1⟩, ih.2⟩

theorem blanked_markLine {place : Place} (h : place ≠ .comment) (line : List Char) :
    Blanked (markLine place line).1 (blanks (markLine place line).1) := by
  induction line generalizing place with
  | nil => exact .nil
  | cons c line ih =>
    have hr := place.reads c
    unfold markLine
    generalize (place.read c).1 = kind, (place.read c).2 = next at hr ⊢
    cases hr with
    | code _ hc hq =>
      have hn : Place.code ≠ .comment := by decide
      simpa [blanks] using (ih hn).keep hc hq
    | comment hc =>
      cases hc.resolve_left h
      simpa [blanks] using Blanked.comment (markLine_comment line).1
    | literal next _ hn _ => simpa [blanks] using (ih hn).blank c

theorem blanked_markRows {place : Place} (h : place ≠ .comment) (lines : List (List Char)) :
    List.Forall₂ Blanked (markRows place lines) ((markRows place lines).map blanks) := by
  induction lines generalizing place with
  | nil => exact .nil
  | cons line lines ih => exact .cons (blanked_markLine h line) (ih (markLine_ne_comment place line))

/-! The scan looks ahead where the reader waits: behind one quote it knows whether two more follow. -/

structure Place.AlikeBut (quote : Char) (place place' : Place) : Prop where
  atEnd : place.atLineEnd = place'.atLineEnd
  other : ∀ c, c ≠ quote → place.read c = place'.read c

namespace Place.AlikeBut

variable {quote : Char} {place place' : Place} (h : AlikeBut quote place place')

include h

theorem markLine_eq {rest : List Char} (hr : ∀ more, rest ≠ quote :: more) : markLine place rest = markLine place' rest := by
  cases rest with
  | nil => exact congrArg (([], ·)) h.atEnd
  | cons c rest =>
    have hc : c ≠ quote := fun hc => hr rest (hc ▸ rfl)
    simp only [markLine, h.other c hc]

theorem markLine_twice {next next' : Place} (hread : place.read quote = (.literal,next))
    (hread' : place'.read quote = (.literal,next')) (hnext : AlikeBut quote next next') {rest : List Char}
    (hr : ∀ more, rest ≠ quote :: quote :: more) : markLine place rest = markLine place' rest := by
  by_cases hq : ∃ more, rest = quote :: more
  · obtain ⟨more,rfl⟩ := hq
    have hmore : markLine next more = markLine next' more := hnext.markLine_eq fun tail he => hr tail (he ▸ rfl)
    simp only [markLine, hread, hread', hmore]
  · exact h.markLine_eq (not_exists.mp hq)

end Place.AlikeBut

theorem markLine_opening {quote : Char} (hq : quote ≠ '\\') {rest : List Char}
    (h : ∀ more, rest ≠ quote :: quote :: more) :
    markLine (.opening quote) rest = markLine (.short quote false) rest := by
  have hone : Place.AlikeBut quote (.opening quote) (.short quote false) :=
    ⟨rfl, fun c hc => by simp [Place.read, hc]⟩
  have htwo : Place.AlikeBut quote (.doubled quote) .code := ⟨rfl, fun c hc => by simp [Place.read, hc]⟩
  exact hone.markLine_twice (by simp [Place.read]) (by simp [Place.read, Place.readShort, hq]) htwo h

theorem markLine_run {quote : Char} (hq : quote ≠ '\\') {rest : List Char}
    (h : ∀ more, rest ≠ quote :: quote :: more) :
    markLine (.long quote false 1) rest = markLine (.long quote false 0) rest := by
  have halike : ∀ run run', Place.AlikeBut quote (.long quote false run) (.long quote false run') := fun run run' =>
    ⟨rfl, fun c hc => by simp [Place.read, Place.readLong, hc]⟩
  exact (halike 1 0).markLine_twice (by simp [Place.read, Place.readLong, hq]) (by simp [Place.read, Place.readLong, hq])
    (halike 2 1) h

def Mode.place : Mode → Bool → Place
  | .code, _ => .code
  | .short quote, escaped => .short quote escaped
  | .long quote, escaped => .long quote escaped 0

def Agree (scanned : List Char × Mode) (marks : List (Char × Kind) × Place) : Prop :=
  scanned.1 = blanks marks.1 ∧ scanned.2.place false = marks.2

section

variable {place next : Place} {c : Char} {rest : List Char} {scanned : List Char × Mode}

theorem Agree.blank (h : Agree scanned (markLine next rest)) (hr : place.read c = (.literal,next)) :
    Agree (scanLine.blank 1 scanned) (markLine place (c :: rest)) := by
  simpa [Agree, scanLine.blank, markLine, hr, blanks] using h

theorem Agree.keep (h : Agree scanned (markLine next rest)) (hr : place.read c = (.code,next)) :
    Agree (scanLine.keep c scanned) (markLine place (c :: rest)) := by
  simpa [Agree, scanLine.keep, markLine, hr, blanks] using h

end

theorem isQuote_ne {c : Char} (h : isQuote c = true) : c ≠ '\\' := by
  rintro rfl
  simp [isQuote] at h

theorem read_quote {c : Char} (hc : c ≠ '#') (hq : isQuote c = true) :
    Place.code.read c = (.literal, .opening c) := by
  simp [Place.read, Place.readCode, hc, hq]

theorem scanLine_agree (mode : Mode) (escaped : Bool) (line : List Char) :
    Agree (scanLine mode escaped line) (markLine (mode.place escaped) line) := by
  fun_induction scanLine mode escaped line with
  | case1 mode escaped => cases mode <;> cases escaped <;> exact ⟨rfl,rfl⟩
  | case2 escaped rest =>
    exact ⟨by simp [Mode.place, markLine, Place.read, Place.readCode, blanks], (markLine_comment rest).2.symm⟩
  -- three quotes in code
  | case3 escaped c hc hq c₂ c₃ rest h ih =>
    obtain ⟨rfl,rfl⟩ := h
    have hthird : Agree _ (markLine (.doubled c₃) (c₃ :: rest)) := ih.blank (by simp [Place.read, Mode.place])
    have hsecond : Agree _ (markLine (.opening c₃) (c₃ :: c₃ :: rest)) := hthird.blank (by simp [Place.read])
    exact hsecond.blank (read_quote hc hq)
  | case4 escaped c hc hq c₂ c₃ rest h ih =>
    have hopening : markLine (.opening c) (c₂ :: c₃ :: rest) = markLine (.short c false) (c₂ :: c₃ :: rest) :=
      markLine_opening (isQuote_ne hq) fun more he => h (by cases he; exact ⟨rfl,rfl⟩)
    exact Agree.blank (hopening ▸ ih) (read_quote hc hq)
  | case5 escaped c hc hq rest h ih =>
    have hopening := markLine_opening (isQuote_ne hq) fun more => h c c more
    exact Agree.blank (hopening ▸ ih) (read_quote hc hq)
  | case6 escaped c rest hc hq ih =>
    exact ih.keep (by simp [Mode.place, Place.read, Place.readCode, hc, hq])
  -- a short literal
  | case7 c rest quote ih => exact ih.blank rfl
  | case8 escaped rest quote he ih =>
    cases eq_false_of_ne_true he
    exact ih.blank (by simp [Mode.place, Place.read, Place.readShort])
  | case9 escaped c rest he hb ih =>
    cases eq_false_of_ne_true he
    exact ih.blank (by simp [Mode.place, Place.read, Place.readShort, hb])
  | case10 escaped c rest quote he hb hc ih =>
    cases eq_false_of_ne_true he
    exact ih.blank (by simp [Mode.place, Place.read, Place.readShort, hb, hc])
  -- a long literal
  | case11 c rest quote ih => exact ih.blank rfl
  | case12 escaped rest quote he ih =>
    cases eq_false_of_ne_true he
    exact ih.blank (by simp [Mode.place, Place.read, Place.readLong])
  | case13 escaped c he hb c₂ c₃ rest h ih =>
    cases eq_false_of_ne_true he
    obtain ⟨rfl,rfl⟩ := h
    have hthird : Agree _ (markLine (.long c₃ false 2) (c₃ :: rest)) :=
      ih.blank (by simp [Place.read, Place.readLong, Mode.place, hb])
    have hsecond : Agree _ (markLine (.long c₃ false 1) (c₃ :: c₃ :: rest)) :=
      hthird.blank (by simp [Place.read, Place.readLong, hb])
    exact hsecond.blank (by simp [Mode.place, Place.read, Place.readLong, hb])
  | case14 escaped c he hb c₂ c₃ rest h ih =>
    cases eq_false_of_ne_true he
    have hrun : markLine (.long c false 1) (c₂ :: c₃ :: rest) = markLine (.long c false 0) (c₂ :: c₃ :: rest) :=
      markLine_run hb fun more he => h (by cases he; exact ⟨rfl,rfl⟩)
    exact Agree.blank (hrun ▸ ih) (by simp [Mode.place, Place.read, Place.readLong, hb])
  | case15 escaped c he hb rest h ih =>
    cases eq_false_of_ne_true he
    have hrun := markLine_run hb fun more => h c c more
    exact Agree.blank (hrun ▸ ih) (by simp [Mode.place, Place.read, Place.readLong, hb])
  | case16 escaped c rest quote he hb hc ih =>
    cases eq_false_of_ne_true he
    exact ih.blank (by simp [Mode.place, Place.read, Place.readLong, hb, hc])

theorem scanLines_eq (mode : Mode) (lines : List (List Char)) :
    scanLines mode lines = (markRows (mode.place false) lines).map blanks := by
  induction lines generalizing mode with
  | nil => rfl
  | cons line lines ih =>
    obtain ⟨hcode,hmode⟩ := scanLine_agree mode false line
    simp only [scanLines, markRows, List.map_cons, ih, hcode, hmode]

theorem codeLines_eq (text : List Char) : codeLines text = (rows (marked text)).map blanks := by
  rw [marked, rows_markFrom]
  exact scanLines_eq .code (Text.lines text)

theorem blanked_codeLines (text : List Char) : List.Forall₂ Blanked (rows (marked text)) (codeLines text) := by
  have hc : Place.code ≠ .comment := nofun
  rw [codeLines_eq, marked, rows_markFrom]
  exact blanked_markRows hc (Text.lines text)

theorem blanking_is_exact (text : List Char) :
    (marked text).map Prod.fst = text ∧
    (rows (marked text)).map (·.map Prod.fst) = Text.lines text ∧
    (codeLines text).length = (Text.lines text).length ∧
    List.Forall₂ Blanked (rows (marked text)) (codeLines text) := by
  refine ⟨markFrom_chars .code text, rows_chars text, ?_, blanked_codeLines text⟩
  rw [codeLines_eq, ← rows_chars, List.length_map, List.length_map]

-- the fourth quote stands inside the long literal, and the line end does not close it
example : codeLines "a = \"\"\"\" # b\n\"\"\" + c # d".toList = ["a =         ".toList, "    + c ".toList] := by
  decide +kernel

end LiveAnalysis.Source
