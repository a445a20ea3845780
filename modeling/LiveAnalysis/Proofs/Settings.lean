import Mathlib.Data.List.Induction
import Mathlib.Data.List.TakeWhile
import Mathlib.Data.Nat.Digits.Defs
import LiveAnalysis.Editor.Session

namespace LiveAnalysis

namespace Text

def Pads (cs word : List Char) : Prop :=
  ∃ front back, cs = front ++ word ++ back ∧ (∀ c ∈ front, isBlank c = true) ∧ ∀ c ∈ back, isBlank c = true

def Spells (cs : List Char) (n : Nat) : Prop :=
  n < 2 ^ 64 ∧ ∃ digits, (cs = digits ∨ cs = '+' :: digits) ∧ digits ≠ [] ∧ (∀ c ∈ digits, c.isDigit = true) ∧
    Nat.ofDigits 10 (digits.reverse.map fun c => c.toNat - '0'.toNat) = n

theorem pads_trim (cs : List Char) : Pads cs (trim cs) := by
  refine ⟨cs.takeWhile isBlank, ((trimStart cs).reverse.takeWhile isBlank).reverse, ?_,
    fun c hc => List.mem_takeWhile_imp hc, fun c hc => List.mem_takeWhile_imp (List.mem_reverse.mp hc)⟩
  have hend : trim cs ++ ((trimStart cs).reverse.takeWhile isBlank).reverse = trimStart cs := by
    rw [trim, trimEnd, ← List.reverse_append, List.takeWhile_append_dropWhile, List.reverse_reverse]
  rw [List.append_assoc, hend, trimStart, List.takeWhile_append_dropWhile]

theorem dropWhile_unpadded {word : List Char} (h : ∀ c ∈ word, isBlank c = false) : word.dropWhile isBlank = word := by
  cases word with
  | nil => rfl
  | cons c word => exact List.dropWhile_cons_of_neg (ne_true_of_eq_false (h c List.mem_cons_self))

theorem Pads.trim_eq {cs word : List Char} (h : Pads cs word) (hword : ∀ c ∈ word, isBlank c = false) :
    trim cs = word := by
  obtain ⟨front,back,rfl,hfront,hback⟩ := h
  rw [trim, trimStart, List.append_assoc, List.dropWhile_append_of_pos hfront]
  cases word with
  | nil =>
    rw [List.nil_append, List.dropWhile_eq_nil_iff.mpr hback]
    rfl
  | cons c word =>
    have hreverse : ∀ c' ∈ (c :: word).reverse, isBlank c' = false := fun c' hc => hword c' (List.mem_reverse.mp hc)
    rw [List.cons_append, List.dropWhile_cons_of_neg (ne_true_of_eq_false (hword c List.mem_cons_self)),
      ← List.cons_append, trimEnd, List.reverse_append,
      List.dropWhile_append_of_pos fun c' hc => hback c' (List.mem_reverse.mp hc), dropWhile_unpadded hreverse,
      List.reverse_reverse]

theorem decimal_eq_ofDigits (digits : List Char) :
    decimal digits = Nat.ofDigits 10 (digits.reverse.map fun c => c.toNat - '0'.toNat) := by
  induction digits using List.reverseRecOn with
  | nil => rfl
  | append_singleton digits c ih =>
    rw [List.reverse_append, List.reverse_singleton, List.singleton_append, List.map_cons, Nat.ofDigits_cons, ← ih,
      decimal, List.foldl_append]
    change decimal digits * 10 + (c.toNat - 48) = (c.toNat - 48) + 10 * decimal digits
    omega

def unsigned : List Char → List Char
  | '+' :: rest => rest
  | cs => cs

theorem unsigned_cases (cs : List Char) : cs = unsigned cs ∨ cs = '+' :: unsigned cs := by
  unfold unsigned
  split
  · exact Or.inr rfl
  · exact Or.inl rfl

theorem unsigned_digits {digits : List Char} (h : ∀ c ∈ digits, c.isDigit = true) : unsigned digits = digits := by
  unfold unsigned
  split
  · exact absurd (h '+' List.mem_cons_self) (by decide)
  · rfl

theorem word?_unsigned {cs : List Char} {n : Nat} :
    word? cs = some n ↔ n < 2 ^ 64 ∧ unsigned cs ≠ [] ∧ (∀ c ∈ unsigned cs, c.isDigit = true) ∧
      Nat.ofDigits 10 ((unsigned cs).reverse.map fun c => c.toNat - '0'.toNat) = n := by
  rw [← decimal_eq_ofDigits]
  change (if !(unsigned cs).isEmpty && (unsigned cs).all Char.isDigit && decimal (unsigned cs) < 2 ^ 64 then
    some (decimal (unsigned cs)) else none) = some n ↔ _
  simp only [Option.ite_none_right_eq_some, Bool.and_eq_true, Bool.not_eq_true', List.isEmpty_eq_false_iff,
    List.all_eq_true, decide_eq_true_eq, Option.some.injEq]
  constructor
  · rintro ⟨⟨⟨hn,hd⟩,hs⟩,rfl⟩
    exact ⟨hs, hn, hd, rfl⟩
  · rintro ⟨hs,hn,hd,rfl⟩
    exact ⟨⟨⟨hn,hd⟩,hs⟩,rfl⟩

theorem word?_eq_some {cs : List Char} {n : Nat} : word? cs = some n ↔ Spells cs n := by
  rw [word?_unsigned]
  constructor
  · rintro ⟨hs,h⟩
    exact ⟨hs, unsigned cs, unsigned_cases cs, h⟩
  · rintro ⟨hs,digits,rfl | rfl,hn,hd,hv⟩
    · rw [unsigned_digits hd]
      exact ⟨hs, hn, hd, hv⟩
    · exact ⟨hs, hn, hd, hv⟩

theorem isDigit_apart : ∀ p ∈ blankRanges, p.2 < '0'.toNat ∨ '9'.toNat < p.1 := by
  decide

theorem isUpper_apart : ∀ p ∈ blankRanges, p.2 < 'A'.toNat ∨ 'Z'.toNat < p.1 := by
  decide

theorem not_between_of_isBlank {c : Char} (h : isBlank c = true) {first last : Nat}
    (hapart : ∀ p ∈ blankRanges, p.2 < first ∨ last < p.1) : ¬ (first ≤ c.toNat ∧ c.toNat ≤ last) := by
  rintro ⟨hfirst,hlast⟩
  obtain ⟨p,hp,hin⟩ := List.any_eq_true.mp h
  simp only [Bool.and_eq_true, decide_eq_true_eq] at hin
  have := hapart p hp
  omega

theorem not_isBlank_of_spells {cs : List Char} {n : Nat} (h : Spells cs n) : ∀ c ∈ cs, isBlank c = false := by
  have hdigit : ∀ c, c.isDigit = true → isBlank c = false := fun c hd => by
    simp only [Char.isDigit, Bool.and_eq_true, decide_eq_true_eq] at hd
    exact eq_false_of_ne_true fun hb => not_between_of_isBlank hb isDigit_apart hd
  obtain ⟨_,digits,rfl | rfl,_,hd,_⟩ := h
  · exact fun c hc => hdigit c (hd c hc)
  · intro c hc
    rcases List.mem_cons.mp hc with rfl | hc
    · decide
    · exact hdigit c (hd c hc)

theorem toLower_of_isBlank {c : Char} (h : isBlank c = true) : c.toLower = c := by
  unfold Char.toLower
  split
  · rename_i hupper
    -- Only capitals change, and none of them is blank.
    exact absurd hupper (not_between_of_isBlank h isUpper_apart)
  · rfl

end Text

/-! A value comes from the upper layer, or from the lower one where the upper gives none. -/

def Over (upper lower : α → Prop) (v : α) : Prop :=
  upper v ∨ (∀ v', ¬ upper v') ∧ lower v

theorem Over.again {upper lower : α → Prop} {v : α} (h : Over upper lower v) : Over upper (v = ·) v :=
  h.imp id fun ⟨hu,_⟩ => ⟨hu,rfl⟩

theorem Over.imp_lower {upper lower lower' : α → Prop} {v : α} (h : Over upper lower v) (hl : lower v → lower' v) :
    Over upper lower' v :=
  h.imp id fun ⟨hu,hv⟩ => ⟨hu,hl hv⟩

theorem getD_eq_iff_over {given : Option α} {upper lower : α → Prop} (hu : ∀ v, given = some v ↔ upper v) {old : α}
    (hl : ∀ v, old = v ↔ lower v) (v : α) : given.getD old = v ↔ Over upper lower v := by
  simp only [Over, ← hu, ← hl]
  cases given <;> simp

namespace Config

def keys : List String :=
  ["defaultTimeoutMs", "traceLogging", "analysisUpdates"]

-- Options that are no object fit: they have no members.
structure Fits (options : Json.Value) : Prop where
  timeout : ∀ v, options.get? "defaultTimeoutMs" = some v → ∃ n < 2 ^ 64, v = .ofNat n
  trace : ∀ v, options.get? "traceLogging" = some v → ∃ b, v = .bool b
  updates : ∀ v, options.get? "analysisUpdates" = some v → ∃ b, v = .bool b

def Offers (options : Json.Value) (key : String) (encode : α → Json.Value) (v : α) : Prop :=
  Fits options ∧ options.get? key = some (encode v)

def wordsFor : Bool → List String
  | true => ["1", "true", "yes", "on"]
  | false => ["0", "false", "no", "off", ""]

def WritesTimeout (raw : String) (n : Nat) : Prop :=
  ∃ word, Text.Pads raw.toList word ∧ Text.Spells word n

def WritesTrace (raw : String) (b : Bool) : Prop :=
  ∃ word, Text.Pads raw.toList word ∧ String.ofList (word.map Char.toLower) ∈ wordsFor b

def Says (environment : Environment) (name : String) (writes : String → α → Prop) (v : α) : Prop :=
  ∃ raw, environment name = some raw ∧ writes raw v

theorem timeoutOf?_eq_some {raw : String} {n : Nat} : timeoutOf? raw = some n ↔ WritesTimeout raw n := by
  rw [timeoutOf?, Text.word?_eq_some]
  constructor
  · intro h
    exact ⟨_, Text.pads_trim _, h⟩
  · rintro ⟨word,hpads,h⟩
    rwa [hpads.trim_eq (Text.not_isBlank_of_spells h)]

theorem wordsFor_no_blank : ∀ b, ∀ word ∈ wordsFor b, word.toList.any Text.isBlank = false := by
  decide

theorem not_isBlank_of_lower {word : List Char} {b : Bool}
    (h : String.ofList (word.map Char.toLower) ∈ wordsFor b) : ∀ c ∈ word, Text.isBlank c = false := by
  refine fun c hc => eq_false_of_ne_true fun hb => ?_
  have hmem : c ∈ (String.ofList (word.map Char.toLower)).toList := by
    rw [String.toList_ofList]
    exact List.mem_map.mpr ⟨c, hc, Text.toLower_of_isBlank hb⟩
  exact List.any_eq_false.mp (wordsFor_no_blank b _ h) c hmem hb

theorem wordsFor_apart : ∀ word ∈ wordsFor false, word ∉ wordsFor true := by
  decide

theorem mem_wordsFor (word : String) (b : Bool) :
    (if word ∈ wordsFor true then some true else if word ∈ wordsFor false then some false else none) = some b ↔
      word ∈ wordsFor b := by
  by_cases htrue : word ∈ wordsFor true
  · have hfalse : word ∉ wordsFor false := fun h => wordsFor_apart word h htrue
    cases b <;> simp [htrue, hfalse]
  · cases b <;> simp [htrue]

theorem traceOf?_eq_some {raw : String} {b : Bool} : traceOf? raw = some b ↔ WritesTrace raw b := by
  refine (mem_wordsFor (String.ofList ((Text.trim raw.toList).map Char.toLower)) b).trans ?_
  constructor
  · intro h
    exact ⟨_, Text.pads_trim _, h⟩
  · rintro ⟨word,hpads,h⟩
    rwa [hpads.trim_eq (not_isBlank_of_lower h)]

theorem says_iff {environment : Environment} {name : String} {read : String → Option α} {writes : String → α → Prop}
    (h : ∀ raw v, read raw = some v ↔ writes raw v) (v : α) :
    (environment name).bind read = some v ↔ Says environment name writes v := by
  simp only [Option.bind_eq_some_iff, h, Says]

theorem applyTimeout_eq (c : Config) (raw? : Option String) :
    (c.applyTimeout raw?).1 = { c with timeout := (raw?.bind timeoutOf?).getD c.timeout } := by
  unfold applyTimeout
  cases raw? with
  | none => rfl
  | some raw => cases h : timeoutOf? raw <;> simp [h]

theorem applyTrace_eq (c : Config) (raw? : Option String) :
    (c.applyTrace raw?).1 = { c with trace := (raw?.bind traceOf?).getD c.trace } := by
  unfold applyTrace
  cases raw? with
  | none => rfl
  | some raw => cases h : traceOf? raw <;> simp [h]

theorem applyEnvironment_eq (c : Config) (environment : Environment) :
    (c.applyEnvironment environment).1 = { c with
      timeout := ((environment timeoutVariable).bind timeoutOf?).getD c.timeout
      trace := ((environment traceVariable).bind traceOf?).getD c.trace } := by
  simp only [applyEnvironment, applyTrace_eq, applyTimeout_eq]

theorem milliseconds?_eq_some {v : Json.Value} {n : Nat} :
    milliseconds? v = some n ↔ n < 2 ^ 64 ∧ v = .ofNat n := by
  unfold milliseconds? Json.Value.ofNat Json.Value.nat?
  split
  · rename_i m
    simp only [Option.filter_eq_some_iff, Option.some.injEq, decide_eq_true_eq]
    constructor
    · rintro ⟨rfl,h⟩
      exact ⟨h, rfl⟩
    · rintro ⟨h,hv⟩
      cases hv
      exact ⟨rfl, h⟩
  · rename_i hv
    simp only [Option.filter_none, reduceCtorEq, false_iff, not_and]
    rintro _ rfl
    exact hv n rfl

theorem bool?_eq_some {v : Json.Value} {b : Bool} : v.bool? = some b ↔ v = .bool b := by
  cases v <;> simp [Json.Value.bool?]

theorem option?_eq_some {options : Json.Value} {key : String} {read : Json.Value → Option α} {old v : α} :
    option? options key read old = some v ↔
      options.get? key = none ∧ old = v ∨ ∃ w, options.get? key = some w ∧ read w = some v := by
  unfold option?
  split <;> simp_all

theorem merged?_eq_some {c c' : Config} {options : Json.Value} :
    c.merged? options = some c' ↔
      option? options "defaultTimeoutMs" milliseconds? c.timeout = some c'.timeout ∧
      option? options "traceLogging" Json.Value.bool? c.trace = some c'.trace ∧
      option? options "analysisUpdates" Json.Value.bool? c.updates = some c'.updates := by
  obtain ⟨timeout,trace,updates⟩ := c'
  simp only [merged?, Option.bind_eq_bind, Option.bind_eq_some_iff, Option.pure_def, Option.some.injEq, mk.injEq]
  constructor
  · rintro ⟨_,ht,_,hr,_,hu,rfl,rfl,rfl⟩
    exact ⟨ht, hr, hu⟩
  · rintro ⟨ht,hr,hu⟩
    exact ⟨_, ht, _, hr, _, hu, rfl, rfl, rfl⟩

theorem option?_isSome {options : Json.Value} {key : String} {read : Json.Value → Option α} {old : α} :
    (∃ v, option? options key read old = some v) ↔ ∀ w, options.get? key = some w → ∃ v, read w = some v := by
  unfold option?
  split <;> simp_all

theorem merged?_isSome (c : Config) (options : Json.Value) :
    (∃ c', c.merged? options = some c') ↔ Fits options := by
  have hsplit : (∃ c', c.merged? options = some c') ↔
      (∃ v, option? options "defaultTimeoutMs" milliseconds? c.timeout = some v) ∧
      (∃ v, option? options "traceLogging" Json.Value.bool? c.trace = some v) ∧
      (∃ v, option? options "analysisUpdates" Json.Value.bool? c.updates = some v) := by
    simp only [merged?_eq_some]
    constructor
    · rintro ⟨c',ht,hr,hu⟩
      exact ⟨⟨_,ht⟩, ⟨_,hr⟩, ⟨_,hu⟩⟩
    · rintro ⟨⟨timeout,ht⟩,⟨trace,hr⟩,⟨updates,hu⟩⟩
      exact ⟨⟨timeout,trace,updates⟩, ht, hr, hu⟩
  simp only [hsplit, option?_isSome, milliseconds?_eq_some, bool?_eq_some]
  constructor
  · rintro ⟨ht,hr,hu⟩
    exact ⟨ht, hr, hu⟩
  · rintro ⟨ht,hr,hu⟩
    exact ⟨ht, hr, hu⟩

theorem merge_cases (c : Config) (options : Json.Value) :
    (Fits options ∧ ∃ c', c.merged? options = some c' ∧ c.merge options = (c',[])) ∨
      ¬ Fits options ∧ c.merge options = (c,[.options]) := by
  have hsome := c.merged?_isSome options
  unfold merge
  cases h : c.merged? options with
  | some c' => exact Or.inl ⟨hsome.mp ⟨c',h⟩, c', rfl, rfl⟩
  | none => exact Or.inr ⟨fun hf => by simpa [h] using hsome.mpr hf, rfl⟩

theorem merge_over {c : Config} {options : Json.Value} {key : String} (read : Json.Value → Option α)
    {encode : α → Json.Value} (field : Config → α)
    (hread : Fits options → ∀ w v, options.get? key = some w → (read w = some v ↔ w = encode v))
    (hfield : ∀ c', c.merged? options = some c' → option? options key read (field c) = some (field c')) (v : α) :
    field (c.merge options).1 = v ↔ Over (Offers options key encode) (field c = ·) v := by
  rcases c.merge_cases options with ⟨hf,c',hc,hm⟩ | ⟨hf,hm⟩
  · rw [hm]
    rcases option?_eq_some.mp (hfield c' hc) with ⟨hk,hold⟩ | ⟨w,hk,hw⟩
    · simp [Over, Offers, hk, hold]
    · -- What the member is read as determines how it is encoded, so that it offers one value only.
      have hoffers : ∀ v, Offers options key encode v ↔ field c' = v := fun v => by
        rw [Offers, hk, Option.some.injEq, ← hread hf w v hk, hw, Option.some.injEq]
        exact and_iff_right hf
      simp [Over, hoffers]
  · simp [hm, Over, Offers, hf]

theorem merge_timeout (c : Config) (options : Json.Value) (n : Nat) :
    (c.merge options).1.timeout = n ↔ Over (Offers options "defaultTimeoutMs" .ofNat) (c.timeout = ·) n := by
  refine merge_over milliseconds? timeout (fun hf w v hw => ?_)
    (fun c' h => (merged?_eq_some.mp h).1) n
  rw [milliseconds?_eq_some, and_iff_right_iff_imp]
  rintro rfl
  obtain ⟨n,hn,he⟩ := hf.timeout _ hw
  cases he
  exact hn

theorem merge_trace (c : Config) (options : Json.Value) (b : Bool) :
    (c.merge options).1.trace = b ↔ Over (Offers options "traceLogging" .bool) (c.trace = ·) b :=
  merge_over Json.Value.bool? trace (fun _ _ _ _ => bool?_eq_some) (fun _ h => (merged?_eq_some.mp h).2.1) b

theorem merge_updates (c : Config) (options : Json.Value) (b : Bool) :
    (c.merge options).1.updates = b ↔ Over (Offers options "analysisUpdates" .bool) (c.updates = ·) b :=
  merge_over Json.Value.bool? updates (fun _ _ _ _ => bool?_eq_some) (fun _ h => (merged?_eq_some.mp h).2.2) b

theorem merge_of_not_object (c : Config) {options : Json.Value} (h : ∀ members, options ≠ .obj members) :
    c.merge options = (c,[]) := by
  cases options with
  | obj members => exact absurd rfl (h members)
  | _ => rfl

theorem merge_congr (c : Config) {options options' : Json.Value}
    (h : ∀ key ∈ keys, options.get? key = options'.get? key) : c.merge options = c.merge options' := by
  simp only [keys, List.forall_mem_cons] at h
  obtain ⟨ht,hr,hu,_⟩ := h
  simp only [merge, merged?, option?, ht, hr, hu]

theorem get?_filter (members : List (String × Json.Value)) {names : List String} {key : String} (h : key ∈ names) :
    (Json.Value.obj (members.filter fun m => m.1 ∈ names)).get? key = (Json.Value.obj members).get? key := by
  have hsame : (fun m : String × Json.Value => decide (decide (m.1 ∈ names) = true ∧ decide (m.1 = key) = true)) =
      fun m => decide (m.1 = key) := by
    funext m
    by_cases hm : m.1 = key <;> simp [hm, h]
  simp only [Json.Value.get?, ← List.filter_reverse, List.find?_filter, hsame]

theorem get?_append (below above : List (String × Json.Value)) (key : String) :
    (Json.Value.obj (below ++ above)).get? key =
      ((Json.Value.obj above).get? key).or ((Json.Value.obj below).get? key) := by
  simp only [Json.Value.get?, List.reverse_append, List.find?_append, Option.map_or]

theorem option?_below {options options' : Json.Value} {key : String} {read : Json.Value → Option α} {old : α}
    {w : Json.Value} (h : options'.get? key = (options.get? key).or (some w)) (hw : read w = some old) (other : α) :
    option? options' key read other = option? options key read old := by
  unfold option?
  rw [h]
  cases options.get? key with
  | none => exact hw
  | some _ => rfl

-- The options may as well go over the settings as these are written out, and the whole be read back.
theorem merged?_written_out {c : Config} (hc : c.timeout < 2 ^ 64) {settings : List (String × Json.Value)}
    (hs : c.toJson = .obj settings) (members : List (String × Json.Value)) (other : Config) :
    other.merged? (.obj (settings ++ members.filter fun m => m.1 ∈ settings.map Prod.fst)) =
      c.merged? (.obj members) := by
  have hkeys : settings.map Prod.fst = keys := by
    cases hs
    rfl
  have hget : ∀ key ∈ keys, ∀ w, c.toJson.get? key = some w →
      (Json.Value.obj (settings ++ members.filter fun m => m.1 ∈ keys)).get? key =
        ((Json.Value.obj members).get? key).or (some w) := fun key hk w hw => by
    rw [get?_append, get?_filter members hk, ← hs, hw]
  have ht := option?_below (hget "defaultTimeoutMs" (by decide) _ rfl) (milliseconds?_eq_some.mpr ⟨hc,rfl⟩)
    other.timeout
  have hr := option?_below (hget "traceLogging" (by decide) _ rfl) (bool?_eq_some.mpr rfl) other.trace
  have hu := option?_below (hget "analysisUpdates" (by decide) _ rfl) (bool?_eq_some.mpr rfl) other.updates
  simp only [merged?, hkeys, ht, hr, hu]

theorem eq_of_fields {c c' : Config} (ht : c.timeout = c'.timeout) (hr : c.trace = c'.trace)
    (hu : c.updates = c'.updates) : c = c' := by
  cases c
  cases c'
  cases ht
  cases hr
  cases hu
  rfl

def configured (c : Config) (options : Json.Value) (environment : Environment) : Config :=
  ((c.merge options).1.applyEnvironment environment).1

theorem configured_timeout (c : Config) (options : Json.Value) (environment : Environment) (n : Nat) :
    (c.configured options environment).timeout = n ↔ Over (Says environment timeoutVariable WritesTimeout)
      (Over (Offers options "defaultTimeoutMs" .ofNat) (c.timeout = ·)) n := by
  rw [configured, applyEnvironment_eq]
  exact getD_eq_iff_over (says_iff fun _ _ => timeoutOf?_eq_some) (c.merge_timeout options) n

theorem configured_trace (c : Config) (options : Json.Value) (environment : Environment) (b : Bool) :
    (c.configured options environment).trace = b ↔ Over (Says environment traceVariable WritesTrace)
      (Over (Offers options "traceLogging" .bool) (c.trace = ·)) b := by
  rw [configured, applyEnvironment_eq]
  exact getD_eq_iff_over (says_iff fun _ _ => traceOf?_eq_some) (c.merge_trace options) b

theorem configured_updates (c : Config) (options : Json.Value) (environment : Environment) (b : Bool) :
    (c.configured options environment).updates = b ↔
      Over (Offers options "analysisUpdates" .bool) (c.updates = ·) b := by
  rw [configured, applyEnvironment_eq]
  exact c.merge_updates options b

theorem configured_again (c : Config) (options : Json.Value) (environment : Environment) :
    (c.configured options environment).configured options environment = c.configured options environment := by
  -- Under the same layers it makes no difference whether the old value or their own outcome lies below.
  refine eq_of_fields ?_ ?_ ?_
  · have h := (c.configured_timeout options environment _).mp rfl
    exact (configured_timeout _ options environment _).mpr (h.imp_lower Over.again)
  · have h := (c.configured_trace options environment _).mp rfl
    exact (configured_trace _ options environment _).mpr (h.imp_lower Over.again)
  · have h := (c.configured_updates options environment _).mp rfl
    exact (configured_updates _ options environment _).mpr h.again

theorem settings_lie_in_layers (c : Config) (options : Json.Value) (environment : Environment) :
    let after := c.configured options environment
    (∀ n, after.timeout = n ↔ Over (Says environment timeoutVariable WritesTimeout)
      (Over (Offers options "defaultTimeoutMs" .ofNat) (c.timeout = ·)) n) ∧
    (∀ b, after.trace = b ↔ Over (Says environment traceVariable WritesTrace)
      (Over (Offers options "traceLogging" .bool) (c.trace = ·)) b) ∧
    (∀ b, after.updates = b ↔ Over (Offers options "analysisUpdates" .bool) (c.updates = ·) b) ∧
    (¬ Fits options → after = (c.applyEnvironment environment).1) ∧
    ((∀ members, options ≠ .obj members) → after = (c.applyEnvironment environment).1) ∧
    (∀ members, options = .obj members →
      after = c.configured (.obj (members.filter fun m => m.1 ∈ keys)) environment) ∧
    ((∀ n, ¬ Says environment timeoutVariable WritesTimeout n) → after.timeout = (c.merge options).1.timeout) ∧
    ((∀ b, ¬ Says environment traceVariable WritesTrace b) → after.trace = (c.merge options).1.trace) ∧
    after.configured options environment = after ∧
    ∀ (s : Editor.Session) (number : Nat), s.config = c → s.environment = environment →
      (s.hear number (.connect (some options))).config = after := by
  refine ⟨c.configured_timeout options environment, c.configured_trace options environment,
    c.configured_updates options environment, fun hf => ?_, fun ho => ?_, fun members ho => ?_, fun hn => ?_,
    fun hn => ?_, c.configured_again options environment, fun s number hc he => ?_⟩
  · rcases c.merge_cases options with ⟨hf',_⟩ | ⟨_,hm⟩
    · exact absurd hf' hf
    · rw [configured, hm]
  · rw [configured, c.merge_of_not_object ho]
  · have hknown : c.merge options = c.merge (.obj (members.filter fun m => m.1 ∈ keys)) :=
      c.merge_congr fun key hk => by rw [ho, get?_filter members hk]
    rw [configured, configured, hknown]
  · rw [configured_timeout]
    exact Or.inr ⟨hn, (c.merge_timeout options _).mp rfl⟩
  · rw [configured_trace]
    exact Or.inr ⟨hn, (c.merge_trace options _).mp rfl⟩
  · subst hc he
    rfl

theorem settings_lie_in_layers_mixed :
    let c : Config := { timeout := 7, trace := true, updates := false }
    let options : Json.Value :=
      .obj [("other", .null), ("defaultTimeoutMs", .int 500), ("analysisUpdates", .bool true)]
    let spoiled : Json.Value := .obj [("analysisUpdates", .bool true), ("traceLogging", .str "yes")]
    let environment : Environment := fun name =>
      if name = timeoutVariable then some " +1200\n" else if name = traceVariable then some "maybe" else none
    let s : Editor.Session := { config := c, environment }
    ¬ Fits spoiled ∧ c.configured spoiled environment = { c with timeout := 1200 } ∧
    c.configured (.arr [options]) environment = { c with timeout := 1200 } ∧
    c.configured options environment =
      c.configured (.obj [("defaultTimeoutMs", .int 500), ("analysisUpdates", .bool true)]) environment ∧
    (∀ b, ¬ Says environment traceVariable WritesTrace b) ∧
    (c.configured options environment).trace = (c.merge options).1.trace ∧
    (∀ n, ¬ Says (fun _ => none) timeoutVariable WritesTimeout n) ∧
    (c.configured options fun _ => none).timeout = 500 ∧
    (s.hear 0 (.connect (some options))).config = { timeout := 1200, trace := true, updates := true } := by
  intro c options spoiled environment s
  have hspoiled : ¬ Fits spoiled := fun h => by
    obtain ⟨b,hb⟩ := h.trace (.str "yes") rfl
    cases hb
  have htrace : ∀ b, ¬ Says environment traceVariable WritesTrace b := fun b => by
    rw [← says_iff fun _ _ => traceOf?_eq_some]
    revert b
    decide +kernel
  have hnone : ∀ n, ¬ Says (fun _ => none) timeoutVariable WritesTimeout n := fun n ⟨_,hraw,_⟩ => by cases hraw
  obtain ⟨_,_,_,_,_,hknown,_,hkept,_,hsession⟩ := settings_lie_in_layers c options environment
  have hafter : c.configured options environment = { timeout := 1200, trace := true, updates := true } := by
    decide +kernel
  refine ⟨hspoiled, ?_, ?_, hknown _ rfl, htrace, hkept htrace, hnone, ?_, (hsession s 0 rfl rfl).trans hafter⟩
  · rw [(settings_lie_in_layers c spoiled environment).2.2.2.1 hspoiled]
    decide +kernel
  · rw [(settings_lie_in_layers c (.arr [options]) environment).2.2.2.2.1 (by simp)]
    decide +kernel
  · rw [(settings_lie_in_layers c options fun _ => none).2.2.2.2.2.2.1 hnone]
    decide +kernel

end Config

end LiveAnalysis
