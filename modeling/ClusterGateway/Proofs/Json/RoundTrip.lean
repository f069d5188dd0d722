import ClusterGateway.Json.Printer
import ClusterGateway.Json.Reader
import Mathlib.Tactic

/-!
# What is written is read back

A value without binary numbers, whose integers are in range and whose arrays and objects are not too
deep, is read back from its text as it was. The reader takes one character after the other, so the
text of a value is read in its place: whatever was read before leaves the reader open for a value, and
after the text it holds this value, whatever follows.
-/

namespace ClusterGateway.Json

/-! ## Values that are read back -/

namespace Number

def Exact : Number → Prop
  | int n => -(2 ^ 63 : Int) ≤ n ∧ n < 2 ^ 64
  | real _ => False

end Number

mutual

/-- A value of exact numbers with at most so many arrays and objects in each other. -/
def Fits (room : Nat) : Json → Prop
  | null | bool _ | str _ => True
  | num n => n.Exact
  | arr items => ∃ inner, room = inner + 1 ∧ FitsItems inner items
  | obj fields => ∃ inner, room = inner + 1 ∧ FitsFields inner fields

def FitsItems (room : Nat) : List Json → Prop
  | [] => True
  | v :: rest => v.Fits room ∧ FitsItems room rest

def FitsFields (room : Nat) : List (String × Json) → Prop
  | [] => True
  | (_, v) :: rest => v.Fits room ∧ FitsFields room rest

end

/-! ## Strings -/

theorem escapeChar_of_not_needsEscape {c : Char} (h : ¬ needsEscape c = true) : escapeChar c = [c] := by
  simp only [needsEscape, Bool.or_eq_true, beq_iff_eq, decide_eq_true_eq, not_or] at h
  obtain ⟨⟨hquote, hslash⟩, hlow⟩ := h
  have hne : ∀ d : Char, d.toNat < 0x20 → c ≠ d := by
    rintro d hd rfl
    exact hlow hd
  rw [escapeChar, if_neg hquote, if_neg hslash, if_neg (hne _ (by decide)), if_neg (hne _ (by decide)),
    if_neg (hne _ (by decide)), if_neg (hne _ (by decide)), if_neg (hne _ (by decide)), if_neg hlow]

theorem toList_quote (s : String) : (quote s).toList = '"' :: s.toList.flatMap escapeChar ++ ['"'] := by
  rw [quote]
  split
  · rw [String.toList_ofList]
  next h =>
    have hplain : s.toList.flatMap escapeChar = s.toList := by
      simp only [String.any, String.contains_bool_eq, List.any_eq_true, not_exists, not_and] at h
      rw [List.flatMap_congr fun c hc => escapeChar_of_not_needsEscape (h c hc), List.flatMap_singleton']
    rw [hplain]
    simp

namespace Reader

variable {close : Close} {r r' : Reader} {frames : List Frame}

theorem run?_append (cs ds : List Char) :
    r.run? close (cs ++ ds) = (r.run? close cs).bind fun r => r.run? close ds := by
  induction cs generalizing r with
  | nil => rfl
  | cons c cs ih =>
    simp only [List.cons_append, run?]
    cases r.step? close c with
    | none => rfl
    | some next => exact ih

theorem run?_cons {c : Char} (h : r.step? close c = some r') (cs : List Char) :
    r.run? close (c :: cs) = r'.run? close cs := by
  rw [run?, h]

theorem run?_append_of {cs : List Char} (h : r.run? close cs = some r') (ds : List Char) :
    r.run? close (cs ++ ds) = r'.run? close ds := by
  rw [run?_append, h]
  rfl

theorem hexValue?_hexDigit : ∀ n < 16, hexValue? (hexDigit n) = some n := by
  decide

section
variable (owner : Option (List (String × Json))) (read : List Char)

theorem run?_control {c : Char} (h : c.toNat < 0x20) :
    run? close ⟨frames, .string owner read .no⟩
        ['\\', 'u', '0', '0', hexDigit (c.toNat / 16), hexDigit (c.toNat % 16)] =
      some ⟨frames, .string owner (c :: read) .no⟩ := by
  have hzero : hexValue? '0' = some 0 := by decide
  have hhigh : hexValue? (hexDigit (c.toNat / 16)) = some (c.toNat / 16) := hexValue?_hexDigit _ (by omega)
  have hlow : hexValue? (hexDigit (c.toNat % 16)) = some (c.toNat % 16) := hexValue?_hexDigit _ (by omega)
  have hcode : c.toNat / 16 * 16 + c.toNat % 16 = c.toNat := by omega
  have hsurrogate : ¬ 0xD800 ≤ c.toNat := by omega
  have hsurrogate' : ¬ 0xDC00 ≤ c.toNat := by omega
  simp [run?, step?, stringStep?, Escape.isDone, hzero, hhigh, hlow, hcode, hsurrogate, hsurrogate',
    Char.ofNat_toNat]

theorem run?_escapeChar (c : Char) :
    run? close ⟨frames, .string owner read .no⟩ (escapeChar c) =
      some ⟨frames, .string owner (c :: read) .no⟩ := by
  by_cases hneeds : needsEscape c = true
  · unfold escapeChar
    split_ifs with hquote hslash _ _ _ _ _ hlow
    any_goals
      subst c
      rfl
    · exact run?_control owner read hlow
    · simp [needsEscape, hquote, hslash, hlow] at hneeds
  · rw [escapeChar_of_not_needsEscape hneeds]
    simp only [needsEscape, Bool.or_eq_true, beq_iff_eq, decide_eq_true_eq, not_or] at hneeds
    obtain ⟨⟨hquote, hslash⟩, hlow⟩ := hneeds
    simp [run?, step?, stringStep?, hquote, hslash, hlow]

theorem run?_flatMap_escapeChar (cs : List Char) :
    run? close ⟨frames, .string owner read .no⟩ (cs.flatMap escapeChar) =
      some ⟨frames, .string owner (cs.reverse ++ read) .no⟩ := by
  induction cs generalizing read with
  | nil => rfl
  | cons c cs ih =>
    rw [List.flatMap_cons, run?_append_of (run?_escapeChar owner read c), ih, List.reverse_cons, List.append_assoc,
      List.singleton_append]

end

end Reader

/-! ## Integers -/

namespace Numeral

/-- The numeral of an integer without its last digits, by what they leave of it. -/
def integer (negative : Bool) (n : Nat) : Numeral :=
  ⟨if n = 0 then .zero else .whole, negative, n, false, false, 0, false, 0⟩

theorem step_integer {n d : Nat} (negative : Bool) (hn : 0 < n) (hd : d < 10) (hfits : n * 10 + d < 2 ^ 64) :
    (integer negative n).step d.digitChar = .more (integer negative (n * 10 + d)) := by
  have hdigit : d.digitChar.isDigit = true := by simp [Nat.isDigit_digitChar, hd]
  have hvalue : d.digitChar.toNat - 48 = d := by rw [Nat.toNat_digitChar_of_lt_ten hd]; omega
  have hfits : fits (n * 10 + d) = true := decide_eq_true hfits
  simp [integer, step, addWhole, hdigit, hvalue, hfits, Nat.pos_iff_ne_zero.1 hn]

theorem step_integer_stop {c : Char} (hdigit : c.isDigit = false) (hpoint : c ≠ '.') (hmark : isPowerMark c = false)
    (negative : Bool) (n : Nat) : (integer negative n).step c = .stop := by
  rcases eq_or_ne n 0 with rfl | hn
  · simp [integer, step, hdigit, hpoint, hmark]
  · simp [integer, step, hdigit, hpoint, hmark, hn]

theorem value?_integer (n : Nat) : (integer false n).value? = some (.int n) := by
  rcases eq_or_ne n 0 with rfl | hn
  · rfl
  · simp [integer, value?, hn]

theorem value?_integer_negative {n : Nat} (hn : 0 < n) (hfits : n ≤ 2 ^ 63) :
    (integer true n).value? = some (.int (-n)) := by
  simpa [integer, value?, Nat.pos_iff_ne_zero.1 hn] using hfits

end Numeral

namespace Reader

variable {close : Close} {r : Reader} {frames : List Frame} {negative : Bool}

theorem run?_toDigits
    (hfirst : ∀ d < 10, r.step? close d.digitChar = some ⟨frames, .numeral (.integer negative d)⟩)
    {n : Nat} (hfits : n < 2 ^ 64) :
    r.run? close (Nat.toDigits 10 n) = some ⟨frames, .numeral (.integer negative n)⟩ := by
  induction n using Nat.strongRecOn with
  | ind n ih =>
    by_cases hn : n < 10
    · rw [Nat.toDigits_of_lt_base hn, run?_cons (hfirst n hn)]
      rfl
    · have hlast := Numeral.step_integer (n := n / 10) (d := n % 10) negative (by omega) (by omega) (by omega)
      rw [show n / 10 * 10 + n % 10 = n by omega] at hlast
      rw [Nat.toDigits_of_base_le (by decide) (by omega), run?_append_of (ih (n / 10) (by omega) (by omega))]
      simp [run?, step?, hlast]

end Reader

/-! ## Values -/

namespace Reader

variable {r r' : Reader} {frames : List Frame} {v : Json} {text : String}

def Reads (text : String) (r : Reader) : Prop := start.run? obj text.toList = some r

theorem Reads.append (h : Reads text r) {more : String} (h' : r.run? obj more.toList = some r') :
    Reads (text ++ more) r' := by
  rw [Reads, String.toList_append, run?_append_of h, h']

structure Opens (r : Reader) (frames : List Frame) : Prop where
  frames : r.frames = frames
  expect : r.expect = .value ∨ r.expect = .valueOrClose

structure Holds (r : Reader) (frames : List Frame) (v : Json) : Prop where
  after : ∀ c ∈ [',', ']', '\x7d'], r.step? obj c = after? obj frames v c
  finish : frames = [] → r.finish? = some v

theorem Opens.step? (h : r.Opens frames) {c : Char} (hspace : isSpace c = false) (hclose : c ≠ ']') :
    r.step? obj c = openValue? ⟨frames, .value⟩ c := by
  obtain ⟨rfl, hexpect⟩ := h
  rcases hexpect with hexpect | hexpect <;> simp [Reader.step?, hexpect, hspace, hclose, openValue?]

theorem Opens.value : Opens ⟨frames, .value⟩ frames := ⟨rfl, .inl rfl⟩

theorem Holds.afterValue : Holds ⟨frames, .afterValue v⟩ frames v := by
  refine ⟨fun c _ => rfl, ?_⟩
  rintro rfl
  rfl

theorem Holds.word : Holds ⟨frames, .word [] v⟩ frames v := by
  refine ⟨fun c _ => rfl, ?_⟩
  rintro rfl
  rfl

theorem Holds.integer {negative : Bool} {n : Nat} {i : Int}
    (h : (Numeral.integer negative n).value? = some (.int i)) :
    Holds ⟨frames, .numeral (.integer negative n)⟩ frames (.num (.int i)) := by
  constructor
  · intro c hc
    have hstop : (Numeral.integer negative n).step c = .stop := by
      simp only [List.mem_cons, List.not_mem_nil, or_false] at hc
      rcases hc with rfl | rfl | rfl <;>
        exact Numeral.step_integer_stop (by decide) (by decide) (by decide) negative n
    simp [Reader.step?, hstop, h]
  · rintro rfl
    simp [finish?, h]

theorem run?_quote {owner : Option (List (String × Json))}
    (h : r.step? obj '"' = some ⟨frames, .string owner [] .no⟩) (s : String) :
    r.run? obj (quote s).toList =
      some ⟨frames, owner.elim (.afterValue (.str s)) fun fields => .colon fields s⟩ := by
  rw [toList_quote, List.cons_append, run?_cons h, run?_append_of (run?_flatMap_escapeChar owner [] s.toList)]
  cases owner <;> simp [run?, step?, Escape.isDone]

theorem run?_name {fields : List (String × Json)}
    (hexpect : r.expect = .name fields ∨ r.expect = .nameOrClose fields) (name : String) :
    r.run? obj (quote name ++ ":").toList = some ⟨.fields fields name :: r.frames, .value⟩ := by
  have hquote : r.step? obj '"' = some ⟨r.frames, .string (some fields) [] .no⟩ := by
    rcases hexpect with hexpect | hexpect <;> simp [step?, hexpect, isSpace]
  rw [String.toList_append, run?_append_of (run?_quote hquote name)]
  rfl

def signed : Numeral := ⟨.sign, true, 0, false, false, 0, false, 0⟩

theorem step?_signed (d : Nat) (hd : d < 10) :
    Reader.step? obj ⟨frames, .numeral signed⟩ d.digitChar = some ⟨frames, .numeral (.integer true d)⟩ := by
  interval_cases d <;> rfl

theorem openValue?_digitChar (d : Nat) (hd : d < 10) :
    openValue? ⟨frames, .value⟩ d.digitChar = some ⟨frames, .numeral (.integer false d)⟩ := by
  interval_cases d <;> rfl

theorem Opens.step?_digitChar (h : r.Opens frames) (d : Nat) (hd : d < 10) :
    r.step? obj d.digitChar = some ⟨frames, .numeral (.integer false d)⟩ := by
  rw [h.step?, openValue?_digitChar d hd]
  all_goals interval_cases d <;> decide

theorem Opens.run?_int (h : r.Opens frames) {i : Int} (hi : (Number.int i).Exact) :
    ∃ r', r.run? obj (toString i).toList = some r' ∧ r'.Holds frames (.num (.int i)) := by
  obtain ⟨hlow, hhigh⟩ := hi
  rw [Int.toString_eq_repr, Int.repr_eq_if]
  split
  next hpos =>
    refine ⟨⟨frames, .numeral (.integer false i.toNat)⟩, ?_, .integer ?_⟩
    · rw [Nat.toList_repr]
      exact run?_toDigits h.step?_digitChar (by omega)
    · rw [Numeral.value?_integer, Int.toNat_of_nonneg hpos]
  next hneg =>
    refine ⟨⟨frames, .numeral (.integer true (-i).toNat)⟩, ?_, .integer ?_⟩
    · rw [String.toList_append, Nat.toList_repr]
      exact (run?_cons (h.step? (by decide) (by decide)) _).trans (run?_toDigits step?_signed (by omega))
    · rw [Numeral.value?_integer_negative (by omega) (by omega), Int.toNat_of_nonneg (by omega), Int.neg_neg]

theorem run?_word (rest : List Char) :
    Reader.run? obj ⟨frames, .word rest v⟩ rest = some ⟨frames, .word [] v⟩ := by
  induction rest with
  | nil => rfl
  | cons c rest ih =>
    have hstep : Reader.step? obj ⟨frames, .word (c :: rest) v⟩ c = some ⟨frames, .word rest v⟩ := if_pos rfl
    rw [run?_cons hstep, ih]

theorem Opens.run?_word (h : r.Opens frames) {c : Char} {rest : List Char} (hspace : isSpace c = false)
    (hclose : c ≠ ']') (hopen : openValue? ⟨frames, .value⟩ c = some ⟨frames, .word rest v⟩) :
    r.run? obj (c :: rest) = some ⟨frames, .word [] v⟩ := by
  rw [run?_cons ((h.step? hspace hclose).trans hopen), Reader.run?_word]

/-! ### Arrays and objects -/

theorem Opens.run?_bracket (h : r.Opens frames) (hroom : frames.length < maxDepth) :
    r.run? obj ['['] = some ⟨.items [] :: frames, .valueOrClose⟩ := by
  have hopen : openValue? ⟨frames, .value⟩ '[' = some ⟨.items [] :: frames, .valueOrClose⟩ := if_pos hroom
  exact run?_cons ((h.step? (by decide) (by decide)).trans hopen) []

theorem Opens.run?_brace (h : r.Opens frames) (hroom : frames.length < maxDepth) :
    r.run? obj ['\x7b'] = some ⟨frames, .nameOrClose []⟩ := by
  have hopen : openValue? ⟨frames, .value⟩ '\x7b' = some ⟨frames, .nameOrClose []⟩ := if_pos hroom
  exact run?_cons ((h.step? (by decide) (by decide)).trans hopen) []

theorem Holds.run? (h : r.Holds frames v) {c : Char} (hc : c ∈ [',', ']', '\x7d'])
    (hafter : after? obj frames v c = some r') :
    r.run? obj [c] = some r' :=
  run?_cons ((h.after c hc).trans hafter) []

theorem Reads.nextField {before : List (String × Json)} {name : String} (hread : Reads text r)
    (hholds : r.Holds (.fields before name :: frames) v) (next : String) :
    Reads (text ++ "," ++ quote next ++ ":") ⟨.fields ((name, v) :: before) next :: frames, .value⟩ := by
  have hcomma : Reads (text ++ ",") ⟨frames, .name ((name, v) :: before)⟩ :=
    hread.append (hholds.run? (by decide) rfl)
  rw [String.append_assoc]
  exact hcomma.append (run?_name (.inl rfl) next)

mutual

/-- A text that leaves the reader open for a value, with the text of a value behind it, leaves the
reader with this value. -/
theorem reads_renderTo {room : Nat} {r : Reader} {frames : List Frame} {text : String} (hread : Reads text r)
    (hopens : r.Opens frames) (hroom : frames.length + room ≤ maxDepth) :
    ∀ v : Json, v.Fits room → ∃ r', Reads (renderTo text v) r' ∧ r'.Holds frames v
  | null, _ =>
    have hrun : r.run? obj ['n', 'u', 'l', 'l'] = _ := hopens.run?_word (by decide) (by decide) rfl
    ⟨_, hread.append hrun, .word⟩
  | bool true, _ =>
    have hrun : r.run? obj ['t', 'r', 'u', 'e'] = _ := hopens.run?_word (by decide) (by decide) rfl
    ⟨_, hread.append hrun, .word⟩
  | bool false, _ =>
    have hrun : r.run? obj ['f', 'a', 'l', 's', 'e'] = _ := hopens.run?_word (by decide) (by decide) rfl
    ⟨_, hread.append hrun, .word⟩
  | num (.int _), hfits =>
    have ⟨r', hrun, hholds⟩ := hopens.run?_int hfits
    ⟨r', hread.append hrun, hholds⟩
  | num (.real _), hfits => hfits.elim
  | str s, _ => ⟨_, hread.append (run?_quote (hopens.step? (by decide) (by decide)) s), .afterValue⟩
  | arr [], ⟨_, hinner, _⟩ =>
    have hbracket : Reads (text ++ "[") ⟨.items [] :: frames, .valueOrClose⟩ :=
      hread.append (hopens.run?_bracket (by omega))
    ⟨_, hbracket.append rfl, .afterValue⟩
  | arr (v :: rest), ⟨_, hinner, hv, hrest⟩ =>
    have hbracket : Reads (text ++ "[") ⟨.items [] :: frames, .valueOrClose⟩ :=
      hread.append (hopens.run?_bracket (by omega))
    have hinside : (Frame.items [] :: frames).length + _ ≤ maxDepth := by rw [List.length_cons]; omega
    have ⟨_, hread, hholds⟩ := reads_renderTo hbracket ⟨rfl, .inr rfl⟩ hinside v hv
    ⟨_, reads_renderItems hread hholds (by omega) rest hrest, .afterValue⟩
  | obj [], ⟨_, hinner, _⟩ =>
    have hbrace : Reads (text ++ "\x7b") ⟨frames, .nameOrClose []⟩ :=
      hread.append (hopens.run?_brace (by omega))
    ⟨_, hbrace.append rfl, .afterValue⟩
  | obj ((name, v) :: rest), ⟨_, hinner, hv, hrest⟩ =>
    have hbrace : Reads (text ++ "\x7b") ⟨frames, .nameOrClose []⟩ :=
      hread.append (hopens.run?_brace (by omega))
    have hname : Reads (text ++ "\x7b" ++ quote name ++ ":") ⟨.fields [] name :: frames, .value⟩ :=
      String.append_assoc.symm ▸ hbrace.append (run?_name (.inr rfl) name)
    have hinside : (Frame.fields [] name :: frames).length + _ ≤ maxDepth := by rw [List.length_cons]; omega
    have ⟨_, hread, hholds⟩ := reads_renderTo hname .value hinside v hv
    ⟨_, reads_renderFields hread hholds (by omega) rest hrest, .afterValue⟩

theorem reads_renderItems {room : Nat} {r : Reader} {frames : List Frame} {before : List Json} {last : Json}
    {text : String} (hread : Reads text r) (hholds : r.Holds (.items before :: frames) last)
    (hroom : frames.length + 1 + room ≤ maxDepth) :
    ∀ items : List Json, FitsItems room items →
      Reads (renderItems text false items ++ "]") ⟨frames, .afterValue (.arr ((last :: before).reverse ++ items))⟩
  | [], _ => by
    rw [List.append_nil]
    exact hread.append (hholds.run? (by decide) rfl)
  | v :: rest, ⟨hv, hrest⟩ => by
    have hcomma : Reads (text ++ ",") ⟨.items (last :: before) :: frames, .value⟩ :=
      hread.append (hholds.run? (by decide) rfl)
    have hinside : (Frame.items (last :: before) :: frames).length + room ≤ maxDepth := hroom
    obtain ⟨_, hread, hholds⟩ := reads_renderTo hcomma .value hinside v hv
    rw [List.append_cons, ← List.reverse_cons]
    exact reads_renderItems hread hholds hroom rest hrest

theorem reads_renderFields {room : Nat} {r : Reader} {frames : List Frame} {before : List (String × Json)}
    {name : String} {last : Json} {text : String} (hread : Reads text r)
    (hholds : r.Holds (.fields before name :: frames) last) (hroom : frames.length + 1 + room ≤ maxDepth) :
    ∀ fields : List (String × Json), FitsFields room fields →
      Reads (renderFields text false fields ++ "\x7d")
        ⟨frames, .afterValue (.obj (((name, last) :: before).reverse ++ fields))⟩
  | [], _ => by
    rw [List.append_nil]
    exact hread.append (hholds.run? (by decide) rfl)
  | (next, v) :: rest, ⟨hv, hrest⟩ => by
    have hinside : (Frame.fields ((name, last) :: before) next :: frames).length + room ≤ maxDepth := hroom
    obtain ⟨_, hread, hholds⟩ := reads_renderTo (hread.nextField hholds next) .value hinside v hv
    rw [List.append_cons, ← List.reverse_cons]
    exact reads_renderFields hread hholds hroom rest hrest

end

end Reader

theorem parseAsWritten?_render {v : Json} (h : v.Fits Reader.maxDepth) : parseAsWritten? v.render = some v := by
  have hstart : Reader.Reads "" Reader.start := rfl
  obtain ⟨r, hread, hholds⟩ := Reader.reads_renderTo hstart .value (Nat.le_of_eq (Nat.zero_add _)) v h
  rw [Reader.Reads] at hread
  rw [parseAsWritten?, render, hread, Option.bind_some, hholds.finish rfl]

end ClusterGateway.Json
