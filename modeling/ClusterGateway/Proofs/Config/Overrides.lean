import ClusterGateway.Config.Override
import ClusterGateway.Proofs.Text.Trim
import Mathlib.Data.Nat.Digits.Defs

/-!
# What overrides do to a configuration

An override has a place of its own in a configuration, which the others leave alone. So overrides come in any
order to the same, a second round changes nothing, and what has no variable stays as it was.
-/

namespace ClusterGateway.Config

/-! ## Numbers -/

/-- Perhaps a plus sign, and then digits that are worth so much. -/
def IsNumeral (s : String) (n : Nat) : Prop :=
  ∃ digits, digits ≠ [] ∧ (s.toList = digits ∨ s.toList = '+' :: digits) ∧ (∀ c ∈ digits, '0' ≤ c ∧ c ≤ '9') ∧
    Nat.ofDigits 10 (digits.reverse.map fun c => c.toNat - '0'.toNat) = n

theorem isDigit_iff (c : Char) : c.isDigit = true ↔ '0' ≤ c ∧ c ≤ '9' := by
  simp [Char.isDigit, Char.le_def]

theorem foldl_digits (digits : List Char) :
    digits.foldl (fun n c => n * 10 + (c.toNat - 48)) 0 =
      Nat.ofDigits 10 (digits.reverse.map fun c => c.toNat - '0'.toNat) := by
  rw [Nat.ofDigits_eq_foldr, List.foldr_map, List.foldr_reverse]
  congr 1
  funext n c
  rw [Nat.mul_comm, Nat.add_comm]
  rfl

theorem eq_or_eq_of_afterPlus (cs : List Char) : cs = afterPlus cs ∨ cs = '+' :: afterPlus cs := by
  unfold afterPlus
  split
  · exact .inr rfl
  · exact .inl rfl

theorem afterPlus_of_digits {digits cs : List Char} (hdigits : ∀ c ∈ digits, '0' ≤ c ∧ c ≤ '9')
    (h : cs = digits ∨ cs = '+' :: digits) : afterPlus cs = digits := by
  rcases h with rfl | rfl
  · unfold afterPlus
    split
    · exact absurd (hdigits '+' List.mem_cons_self) (by decide)
    · rfl
  · rfl

theorem number?_eq_some_iff {bound : Nat} {s : String} {n : Nat} :
    number? bound s = some n ↔ IsNumeral s n ∧ n < bound := by
  simp only [number?, foldl_digits, Option.ite_none_right_eq_some, Bool.and_eq_true, Bool.not_eq_true',
    List.isEmpty_eq_false_iff, List.all_eq_true, isDigit_iff, decide_eq_true_eq, Option.some.injEq]
  constructor
  · rintro ⟨⟨⟨hne, hdigits⟩, hlt⟩, rfl⟩
    exact ⟨⟨_, hne, eq_or_eq_of_afterPlus s.toList, hdigits, rfl⟩, hlt⟩
  · rintro ⟨⟨digits, hne, hs, hdigits, rfl⟩, hlt⟩
    rw [afterPlus_of_digits hdigits hs]
    exact ⟨⟨⟨hne, hdigits⟩, hlt⟩, rfl⟩

/-! ## Lists -/

structure IsJoined (s : String) (pieces : List String) : Prop where
  ne_nil : pieces ≠ []
  comma_notMem : ∀ piece ∈ pieces, ',' ∉ piece.toList
  joined : ",".intercalate pieces = s

theorem eq_false_of_mem_splitOnP {α : Type} {p : α → Bool} {xs part : List α} (h : part ∈ xs.splitOnP p) :
    ∀ x ∈ part, p x = false := by
  induction xs generalizing part with
  | nil =>
    obtain rfl : part = [] := by simpa using h
    simp
  | cons x xs ih =>
    rw [List.splitOnP_cons_eq_if_modifyHead] at h
    split at h
    · rcases List.mem_cons.mp h with rfl | h
      · simp
      · exact ih h
    · next hx =>
      cases hsplit : xs.splitOnP p with
      | nil => exact absurd hsplit (List.splitOnP_ne_nil p xs)
      | cons first rest =>
        rw [hsplit] at h ih
        rcases List.mem_cons.mp h with rfl | h
        · intro y hy
          rcases List.mem_cons.mp hy with rfl | hy
          · simpa using hx
          · exact ih List.mem_cons_self y hy
        · exact ih (List.mem_cons_of_mem _ h)

theorem splitOn_of_isJoined {s : String} {pieces : List String} (h : IsJoined s pieces) :
    s.toList.splitOn ',' = pieces.map String.toList := by
  rw [← h.joined, String.toList_intercalate]
  refine List.splitOn_intercalate ',' ?_ ?_
  · simpa using h.comma_notMem
  · simpa using h.ne_nil

theorem exists_isJoined (s : String) : ∃ pieces, IsJoined s pieces := by
  refine ⟨(s.toList.splitOn ',').map String.ofList, ?_, ?_, ?_⟩
  · simp [List.splitOn_ne_nil]
  · simp only [List.mem_map]
    rintro _ ⟨part, hpart, rfl⟩ hcomma
    rw [String.toList_ofList] at hcomma
    simpa using eq_false_of_mem_splitOnP hpart _ hcomma
  · apply String.toList_injective
    rw [String.toList_intercalate, List.map_map]
    simp only [Function.comp_def, String.toList_ofList, List.map_id']
    exact List.intercalate_splitOn ','

theorem commaList_of_isJoined {s : String} {pieces : List String} (h : IsJoined s pieces) :
    commaList s = (pieces.filter fun piece => !Text.isBlankText piece).map Text.trim := by
  simp only [commaList, splitOn_of_isJoined h, List.map_map, List.filter_map, Function.comp_def, String.ofList_toList,
    Text.isEmpty_trim]

structure IsEntry (entry : String) : Prop where
  not_blank : Text.isBlankText entry = false
  comma_notMem : ',' ∉ entry.toList
  trimmed : Text.trim entry = entry

theorem isEntry_of_mem {s entry : String} (h : entry ∈ commaList s) : IsEntry entry := by
  obtain ⟨pieces, hpieces⟩ := exists_isJoined s
  rw [commaList_of_isJoined hpieces, List.mem_map] at h
  obtain ⟨piece, hpiece, rfl⟩ := h
  obtain ⟨hmem, hblank⟩ := List.mem_filter.mp hpiece
  refine ⟨?_, fun hcomma => hpieces.comma_notMem piece hmem (Text.mem_of_mem_trim hcomma), Text.trim_trim piece⟩
  rw [← Text.isEmpty_trim, Text.trim_trim, Text.isEmpty_trim]
  simpa using hblank

theorem commaList_intercalate {entries : List String} (h : ∀ entry ∈ entries, IsEntry entry) :
    commaList (",".intercalate entries) = entries := by
  cases hne : entries with
  | nil => decide
  | cons first rest =>
    rw [← hne]
    have hjoined : IsJoined (",".intercalate entries) entries :=
      ⟨by simp [hne], fun entry he => (h entry he).comma_notMem, rfl⟩
    rw [commaList_of_isJoined hjoined]
    have hkept : entries.filter (fun entry => !Text.isBlankText entry) = entries :=
      List.filter_eq_self.mpr fun entry he => by rw [(h entry he).not_blank]; rfl
    rw [hkept]
    exact (List.map_congr_left fun entry he => (h entry he).trimmed).trans (List.map_id entries)

/-! ## Settings -/

namespace Setting

def get : (x : Setting) → Config → x.Value
  | host, c => c.host
  | port, c => c.port
  | timeout, c => c.timeoutSeconds
  | inCluster, c => c.inCluster
  | kubeconfig, c => c.kubeconfig
  | kubeconfigContext, c => c.kubeconfigContext
  | hidden, c => c.hidden
  | program, c => c.describe.program
  | secret, c => c.secret
  | logLevel, c => c.logging.level
  | logDirectory, c => c.logging.directory
  | logJson, c => c.logging.json

@[simp] theorem get_put_self (x : Setting) (v : x.Value) (c : Config) : x.get (x.put v c) = v := by
  cases x <;> rfl

theorem get_put_of_ne {x y : Setting} (h : y ≠ x) (v : x.Value) (c : Config) : y.get (x.put v c) = y.get c := by
  cases x <;> cases y <;> first | rfl | exact absurd rfl h

theorem mem_all (x : Setting) : x ∈ all := by cases x <;> decide

theorem nodup_all : all.Nodup := by decide

theorem name_injective : Function.Injective name := by
  intro x y h
  cases x <;> cases y <;> first | rfl | exact absurd h (by decide)

end Setting

/-- The configurations agree in what no variable overrides. -/
structure SameFrame (c c' : Config) : Prop where
  contexts : c'.contexts = c.contexts
  args : c'.describe.args = c.describe.args
  rotation : c'.logging.rotation = c.logging.rotation

namespace SameFrame

variable {c c' c'' : Config}

theorem refl (c : Config) : SameFrame c c := ⟨rfl, rfl, rfl⟩

theorem trans (h : SameFrame c c') (h' : SameFrame c' c'') : SameFrame c c'' :=
  ⟨h'.contexts.trans h.contexts, h'.args.trans h.args, h'.rotation.trans h.rotation⟩

theorem put (x : Setting) (v : x.Value) (c : Config) : SameFrame c (x.put v c) := by
  cases x <;> exact ⟨rfl, rfl, rfl⟩

theorem eq_of_get (h : SameFrame c c') (hget : ∀ x : Setting, x.get c' = x.get c) : c' = c := by
  obtain ⟨_, _, _, _, _, _, _, _, ⟨_, _⟩, _, ⟨_, _, _, _⟩⟩ := c
  obtain ⟨_, _, _, _, _, _, _, _, ⟨_, _⟩, _, ⟨_, _, _, _⟩⟩ := c'
  obtain ⟨rfl, rfl, rfl⟩ := h
  cases hget .host
  cases hget .port
  cases hget .timeout
  cases hget .inCluster
  cases hget .kubeconfig
  cases hget .kubeconfigContext
  cases hget .hidden
  cases hget .program
  cases hget .secret
  cases hget .logLevel
  cases hget .logDirectory
  cases hget .logJson
  rfl

end SameFrame

/-! ## One override -/

section
variable (var : Variables) (c : Config)

namespace Setting

theorem get_override_self (x : Setting) : x.get (x.override var c) = (x.told? var).getD (x.get c) := by
  unfold override
  cases x.told? var with
  | none => rfl
  | some v => exact x.get_put_self v c

theorem get_override_of_ne {x y : Setting} (h : y ≠ x) : y.get (x.override var c) = y.get c := by
  unfold override
  cases x.told? var with
  | none => rfl
  | some v => exact get_put_of_ne h v c

theorem sameFrame_override (x : Setting) : SameFrame c (x.override var c) := by
  unfold override
  cases x.told? var with
  | none => exact .refl c
  | some v => exact .put x v c

end Setting

/-! ## All overrides -/

theorem get_foldl_override (x : Setting) {l : List Setting} (hl : l.Nodup) :
    x.get (l.foldl (fun c y => y.override var c) c) = if x ∈ l then (x.told? var).getD (x.get c) else x.get c := by
  induction l generalizing c with
  | nil => simp
  | cons y l ih =>
    obtain ⟨hy, hl⟩ := List.nodup_cons.mp hl
    rw [List.foldl_cons, ih _ hl]
    by_cases hx : x = y
    · subst hx
      rw [if_neg hy, if_pos List.mem_cons_self, x.get_override_self]
    · simp only [Setting.get_override_of_ne var c hx, List.mem_cons, hx, false_or]

theorem get_applyOverrides (x : Setting) : x.get (c.applyOverrides var) = (x.told? var).getD (x.get c) := by
  rw [applyOverrides, get_foldl_override var c x Setting.nodup_all, if_pos x.mem_all]

theorem sameFrame_applyOverrides : SameFrame c (c.applyOverrides var) := by
  have hfold : ∀ (l : List Setting) (c : Config), SameFrame c (l.foldl (fun c y => y.override var c) c) := by
    intro l
    induction l with
    | nil => exact .refl
    | cons y l ih => exact fun c => (y.sameFrame_override var c).trans (ih _)
  exact hfold Setting.all c

theorem applyOverrides_applyOverrides : (c.applyOverrides var).applyOverrides var = c.applyOverrides var := by
  refine SameFrame.eq_of_get (sameFrame_applyOverrides var _) fun x => ?_
  simp only [get_applyOverrides]
  cases x.told? var <;> rfl

end

theorem eq_of_read_eq_none {x : Setting} {s : String} (h : x.read s = none) : x = .port ∨ x = .timeout := by
  cases x with
  | port => exact .inl rfl
  | timeout => exact .inr rfl
  | _ => cases h

/-- **Overrides change what they are for, and a second time nothing.** Each setting has what its own variable
says, or stays where that is not set or cannot be read, and all that no variable overrides stays too. -/
theorem overrides_respect_frame (var : Variables) (c : Config) :
    let c' := c.applyOverrides var
    c'.applyOverrides var = c' ∧
      (∀ x : Setting, x.get c' = ((var x.name).bind x.read).getD (x.get c)) ∧ Function.Injective Setting.name ∧
      (∀ (x : Setting) s, x.read s = none → x = .port ∨ x = .timeout) ∧
      (∀ s n, Setting.port.read s = some n ↔ IsNumeral s n ∧ n < 2 ^ 16) ∧
      (∀ s n, Setting.timeout.read s = some n ↔ IsNumeral s n ∧ n < 2 ^ 64) ∧
      SameFrame c c' ∧
      ∀ s, var "KUBEGATE_IGNORE_NAMESPACES" = some s →
        (∃ pieces, IsJoined s pieces) ∧
        (∀ pieces, IsJoined s pieces →
          c'.hidden = (pieces.filter fun piece => !Text.isBlankText piece).map Text.trim) ∧
        (∀ entry ∈ c'.hidden, IsEntry entry) ∧
        ∀ (var' : Variables) (c₁ : Config), var' "KUBEGATE_IGNORE_NAMESPACES" = some (",".intercalate c'.hidden) →
          (c₁.applyOverrides var').hidden = c'.hidden := by
  intro c'
  refine ⟨applyOverrides_applyOverrides var c, get_applyOverrides var c, Setting.name_injective,
    fun x s h => eq_of_read_eq_none h, fun s n => number?_eq_some_iff, fun s n => number?_eq_some_iff,
    sameFrame_applyOverrides var c, fun s hs => ?_⟩
  -- the hidden namespaces are the list that their variable holds
  have hlist : ∀ (var : Variables) (c : Config) s, var "KUBEGATE_IGNORE_NAMESPACES" = some s →
      (c.applyOverrides var).hidden = commaList s := by
    intro var c s hs
    have hget := get_applyOverrides var c .hidden
    rw [Setting.told?, Setting.name, hs] at hget
    exact hget
  have hentries : ∀ entry ∈ c'.hidden, IsEntry entry := by
    intro entry he
    rw [hlist var c s hs] at he
    exact isEntry_of_mem he
  refine ⟨exists_isJoined s, fun pieces hpieces => ?_, hentries, fun var' c₁ h => ?_⟩
  · rw [hlist var c s hs, commaList_of_isJoined hpieces]
  · rw [hlist var' c₁ _ h, commaList_intercalate hentries]

theorem overrides_respect_frame_of_three :
    let var : Variables := fun name =>
      if name = "KUBEGATE_PORT" then some "+08443"
      else if name = "KUBEGATE_REQUEST_TIMEOUT_SECS" then some "45s"
      else if name = "KUBEGATE_IGNORE_NAMESPACES" then some " kube-system ,,\tapps\u2003"
      else none
    let c := standard.applyOverrides var
    c.port = 8443 ∧ IsNumeral "+08443" 8443 ∧ c.timeoutSeconds = 30 ∧ c.hidden = ["kube-system", "apps"] ∧
      (∀ entry ∈ c.hidden, IsEntry entry) ∧
      ∀ c₁ : Config, (c₁.applyOverrides fun _ => some (",".intercalate c.hidden)).hidden = c.hidden := by
  intro var c
  obtain ⟨-, -, -, -, hport, -, -, hlist⟩ := overrides_respect_frame var standard
  obtain ⟨-, -, hentries, hback⟩ := hlist " kube-system ,,\tapps\u2003" rfl
  have hread : Setting.port.read "+08443" = some 8443 := by decide +kernel
  exact ⟨by decide +kernel, ((hport _ _).mp hread).1, by decide +kernel, by decide +kernel, hentries,
    fun c₁ => hback _ c₁ rfl⟩

end ClusterGateway.Config
