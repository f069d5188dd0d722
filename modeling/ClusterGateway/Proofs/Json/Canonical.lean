import ClusterGateway.Proofs.Json.Fields
import ClusterGateway.Proofs.Json.RoundTrip

/-!
# Objects in order

In a canonical value the fields of every object are in the order of their names, each name once.
Sorting makes a value canonical, and a canonical value stays as it is. The two ways to read a text differ in
nothing else: after every character the reader that sorts each object as it is closed is the other
one with all that it has read sorted.
-/

namespace ClusterGateway.Json

inductive Canonical : Json → Prop
  | null : Canonical null
  | bool (b : Bool) : Canonical (bool b)
  | num (n : Number) : Canonical (num n)
  | str (s : String) : Canonical (str s)
  | arr {items : List Json} (hitems : ∀ v ∈ items, Canonical v) : Canonical (arr items)
  | obj {fields : List (String × Json)} (hsorted : Fields.Sorted fields)
      (hfields : ∀ field ∈ fields, Canonical field.2) : Canonical (obj fields)

theorem canonical_ofFields {fields : List (String × Json)} (h : ∀ field ∈ fields, Canonical field.2) :
    (ofFields fields).Canonical :=
  .obj (Fields.sorted_ofList fields) fun field hmem => h field (Fields.mem_ofList hmem)

namespace Canonical

variable {name : String} {v : Json} {fields : List (String × Json)}

theorem of_get? (h : (Json.obj fields).Canonical) (hget : Fields.get? name fields = some v) : v.Canonical := by
  cases h with
  | obj _ hfields => exact hfields (name, v) (Fields.mem_of_get? hget)

theorem insert (h : (Json.obj fields).Canonical) (name : String) (hv : v.Canonical) :
    (Json.obj (Fields.insert name v fields)).Canonical := by
  cases h with
  | obj hsorted hfields =>
    refine .obj (Fields.sorted_insert hsorted name v) fun field hmem => ?_
    rcases Fields.mem_insert hmem with rfl | hmem
    · exact hv
    · exact hfields field hmem

theorem erase (h : (Json.obj fields).Canonical) (name : String) : (Json.obj (Fields.erase name fields)).Canonical := by
  cases h with
  | obj hsorted hfields =>
    exact .obj (Fields.sorted_erase hsorted name) fun field hmem =>
      hfields field ((Fields.erase_sublist name fields).subset hmem)

end Canonical

/-! ## Sorting -/

theorem sortedItems_eq_map (items : List Json) : sortedItems items = items.map sorted := by
  induction items with
  | nil => rfl
  | cons v rest ih => rw [sortedItems, ih, List.map_cons]

theorem sortedFields_eq_map (fields : List (String × Json)) :
    sortedFields fields = fields.map fun field => (field.1, field.2.sorted) := by
  induction fields with
  | nil => rfl
  | cons field rest ih => rw [sortedFields, ih, List.map_cons]

mutual

theorem canonical_sorted : ∀ v : Json, v.sorted.Canonical
  | null => .null
  | bool b => .bool b
  | num n => .num n
  | str s => .str s
  | arr items => .arr (canonical_sortedItems items)
  | obj fields => canonical_ofFields (canonical_sortedFields fields)

theorem canonical_sortedItems : ∀ items : List Json, ∀ v ∈ sortedItems items, v.Canonical
  | [] => List.forall_mem_nil _
  | v :: rest => List.forall_mem_cons.mpr ⟨canonical_sorted v, canonical_sortedItems rest⟩

theorem canonical_sortedFields :
    ∀ fields : List (String × Json), ∀ field ∈ sortedFields fields, Canonical field.2
  | [] => List.forall_mem_nil _
  | (_, v) :: rest => List.forall_mem_cons.mpr ⟨canonical_sorted v, canonical_sortedFields rest⟩

end

theorem Canonical.sorted_eq {v : Json} (h : v.Canonical) : v.sorted = v := by
  induction h with
  | null | bool | num | str => rfl
  | arr _ ih => rw [sorted, sortedItems_eq_map, List.map_congr_left ih, List.map_id']
  | obj hsorted _ ih =>
    have hsame : ∀ field ∈ _, Prod.mk field.1 (sorted field.2) = field :=
      fun field hmem => Prod.ext rfl (ih field hmem)
    rw [sorted, sortedFields_eq_map, List.map_congr_left hsame, List.map_id', ofFields,
      Fields.ofList_of_sorted hsorted]

theorem canonical_iff_sorted_eq {v : Json} : v.Canonical ↔ v.sorted = v :=
  ⟨Canonical.sorted_eq, fun h => h ▸ canonical_sorted v⟩

/-! ## Reading in order and reading as written -/

def Frame.sorted : Frame → Frame
  | .items before => .items (sortedItems before)
  | .fields before name => .fields (sortedFields before) name

def Expect.sorted : Expect → Expect
  | .value => .value
  | .valueOrClose => .valueOrClose
  | .nameOrClose fields => .nameOrClose (sortedFields fields)
  | .name fields => .name (sortedFields fields)
  | .colon fields key => .colon (sortedFields fields) key
  | .afterValue v => .afterValue v.sorted
  | .string owner read escape => .string (owner.map sortedFields) read escape
  | .numeral n => .numeral n
  | .word rest v => .word rest v.sorted

namespace Reader

def sorted (r : Reader) : Reader := ⟨r.frames.map Frame.sorted, r.expect.sorted⟩

theorem openValue?_sorted (r : Reader) (c : Char) :
    r.sorted.openValue? c = (r.openValue? c).map sorted := by
  unfold openValue?
  simp only [sorted, List.length_map]
  split_ifs <;> simp [sorted, Expect.sorted, Frame.sorted, sortedItems, sortedFields, Json.sorted, Function.comp_def]

theorem after?_sorted (frames : List Frame) (v : Json) (c : Char) :
    after? ofFields (frames.map Frame.sorted) v.sorted c = (after? obj frames v c).map sorted := by
  unfold after?
  by_cases hspace : isSpace c = true
  · simp only [if_pos hspace, Option.map_some, sorted, Expect.sorted]
  simp only [if_neg hspace]
  cases frames with
  | nil => rfl
  | cons frame rest =>
    cases frame with
    | items before =>
      simp only [List.map_cons, Frame.sorted]
      split_ifs <;> simp [sorted, Expect.sorted, Frame.sorted, Json.sorted, sortedItems_eq_map]
    | fields before name =>
      simp only [List.map_cons, Frame.sorted]
      split_ifs <;> simp [sorted, Expect.sorted, Json.sorted, sortedFields_eq_map]

theorem step?_sorted (r : Reader) (c : Char) :
    r.sorted.step? ofFields c = (r.step? obj c).map sorted := by
  obtain ⟨frames, expect⟩ := r
  cases expect with
  | value =>
    have hopen := openValue?_sorted ⟨frames, .value⟩ c
    simp only [step?, sorted, Expect.sorted] at hopen ⊢
    split_ifs
    · rfl
    · exact hopen
  | valueOrClose =>
    have hopen := openValue?_sorted ⟨frames, .valueOrClose⟩ c
    simp only [step?, sorted, Expect.sorted] at hopen ⊢
    split_ifs
    · rfl
    · simp [sorted, Expect.sorted, Json.sorted, sortedItems]
    · exact hopen
  | nameOrClose fields =>
    simp only [step?, sorted, Expect.sorted]
    split_ifs <;> simp [sorted, Expect.sorted, Json.sorted, sortedFields, ofFields, Fields.ofList]
  | name fields =>
    simp only [step?, sorted, Expect.sorted]
    split_ifs <;> simp [sorted, Expect.sorted]
  | colon fields name =>
    simp only [step?, sorted, Expect.sorted]
    split_ifs <;> simp [sorted, Expect.sorted, Frame.sorted]
  | afterValue v => exact after?_sorted frames v c
  | string owner read escape =>
    simp only [step?, sorted, Expect.sorted]
    split_ifs
    · cases owner <;> rfl
    · simp [sorted, Expect.sorted, Function.comp_def]
  | numeral n =>
    have hafter := fun v => after?_sorted frames (.num v) c
    simp only [step?, sorted, Expect.sorted, Json.sorted] at hafter ⊢
    cases n.step c with
    | more n => rfl
    | stop => simp only [hafter, Option.map_bind, Function.comp_def]
    | bad => rfl
  | word rest v =>
    cases rest with
    | nil => exact after?_sorted frames v c
    | cons d rest =>
      simp only [step?, sorted, Expect.sorted]
      split_ifs <;> rfl

theorem run?_sorted (r : Reader) (cs : List Char) :
    r.sorted.run? ofFields cs = (r.run? obj cs).map sorted := by
  induction cs generalizing r with
  | nil => rfl
  | cons c cs ih =>
    rw [run?, run?, step?_sorted]
    cases r.step? obj c with
    | none => rfl
    | some next => exact ih next

theorem finish?_sorted (r : Reader) : r.sorted.finish? = r.finish?.map Json.sorted := by
  obtain ⟨_ | ⟨frame, frames⟩, expect⟩ := r
  · cases expect with
    | numeral n => simp [finish?, sorted, Expect.sorted, Json.sorted, Function.comp_def]
    | word rest v => cases rest <;> rfl
    | _ => rfl
  · rfl

end Reader

/-- **Reading in order is reading as written, and sorting.** -/
theorem parse?_eq_map_sorted (text : String) : parse? text = (parseAsWritten? text).map sorted := by
  have hrun := Reader.run?_sorted Reader.start text.toList
  rw [show Reader.start.sorted = Reader.start from rfl] at hrun
  rw [parse?, parseAsWritten?, hrun, Option.bind_map, Option.map_bind]
  exact congrArg _ (funext Reader.finish?_sorted)

theorem canonical_of_parse? {text : String} {v : Json} (h : parse? text = some v) : v.Canonical := by
  rw [parse?_eq_map_sorted] at h
  obtain ⟨written, -, rfl⟩ := Option.map_eq_some_iff.mp h
  exact canonical_sorted written

theorem Canonical.parse?_render {v : Json} (h : v.Canonical) (hfits : v.Fits Reader.maxDepth) :
    parse? v.render = some v := by
  rw [parse?_eq_map_sorted, parseAsWritten?_render hfits, Option.map_some, h.sorted_eq]

end ClusterGateway.Json
