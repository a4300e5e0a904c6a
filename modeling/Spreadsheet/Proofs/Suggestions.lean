import Mathlib.Data.List.Sort
import Spreadsheet.Function.Standard
import Spreadsheet.Proofs.Comparison
import Spreadsheet.Proofs.EditDistance

/-!
# Suggested names

The names of a registry are those of the functions that went into it, each once and in order
(`Registry.mem_names_ofList`, `Registry.pairwise_names_ofList`). Sorting by distance keeps names at
one distance in that order (`pairwise_mergeSort_key`), so the close names are ranked by distance and
name (`Registry.pairwise_closeNames`). A list that is ranked so is known from its members, which
leaves no place for the order of registration (`Registry.suggestions_nearest`).
-/

namespace Spreadsheet

/-! ## Sorting by a key -/

section Sorting

variable {α : Type} {r : α → α → Prop} {key : α → Nat} {l : List α}

theorem decide_key_trans (key : α → Nat) (a b c : α) (less : decide (key a ≤ key b) = true)
    (less' : decide (key b ≤ key c) = true) : decide (key a ≤ key c) = true :=
  decide_eq_true ((of_decide_eq_true less).trans (of_decide_eq_true less'))

theorem decide_key_total (key : α → Nat) (a b : α) :
    (decide (key a ≤ key b) || decide (key b ≤ key a)) = true := by
  rw [Bool.or_eq_true, decide_eq_true_iff, decide_eq_true_iff]
  exact Nat.le_total (key a) (key b)

/-- Sorting by a key keeps the elements of one key in their order. -/
theorem filter_mergeSort_key (l : List α) (k : Nat) :
    (l.mergeSort fun a b => key a ≤ key b).filter (fun a => key a = k) =
      l.filter fun a => key a = k := by
  have level : (l.filter fun a => key a = k).Pairwise fun a b => decide (key a ≤ key b) = true := by
    refine List.pairwise_of_forall_mem_list fun a here b here' => decide_eq_true ?_
    have same := of_decide_eq_true (List.mem_filter.mp here).2
    have same' := of_decide_eq_true (List.mem_filter.mp here').2
    exact Nat.le_of_eq (same.trans same'.symm)
  have kept : (l.filter fun a => key a = k).Sublist (l.mergeSort fun a b => key a ≤ key b) :=
    List.sublist_mergeSort (decide_key_trans key) (decide_key_total key) level List.filter_sublist
  have inside := kept.filter fun a => key a = k
  simp only [List.filter_filter, Bool.and_self] at inside
  exact (inside.eq_of_length ((List.mergeSort_perm l _).filter _).length_eq.symm).symm

/-- After sorting by a key, elements are in the order of their keys, and those of one key in the
order that they had. -/
theorem pairwise_mergeSort_key (ordered : l.Pairwise r) :
    (l.mergeSort fun a b => key a ≤ key b).Pairwise
      fun a b => key a < key b ∨ key a = key b ∧ r a b := by
  rw [List.pairwise_iff_forall_sublist]
  intro a b pair
  have sorted := List.pairwise_mergeSort (decide_key_trans key) (decide_key_total key) l
  have ascending := List.pairwise_iff_forall_sublist.mp sorted pair
  rcases (of_decide_eq_true ascending).lt_or_eq with less | same
  · exact .inl less
  · have level := pair.filter fun c => key c = key a
    rw [filter_mergeSort_key, List.filter_eq_self.mpr (by simp [same])] at level
    exact .inr ⟨same, List.pairwise_iff_forall_sublist.mp ordered (level.trans List.filter_sublist)⟩

/-- Sorting elements beside their keys is sorting them by their keys. -/
theorem map_snd_mergeSort (key : α → Nat) (l : List α) :
    ((l.map fun a => (key a, a)).mergeSort fun a b => a.1 ≤ b.1).map (·.2) =
      l.mergeSort fun a b => key a ≤ key b := by
  have beside : (l.mergeSort fun a b => key a ≤ key b).map (fun a => (key a, a)) =
      (l.map fun a => (key a, a)).mergeSort fun a b => a.1 ≤ b.1 :=
    List.map_mergeSort fun _ _ _ _ => rfl
  rw [← beside, List.map_map]
  exact List.map_id _

end Sorting

/-! ## Names of a registry -/

/-- Whether a name in small letters is that of one of the functions. -/
def IsNameOf (functions : List Function) (key : String) : Prop :=
  ∃ f ∈ functions, lowerText f.info.name = key

section Names

variable {registry : Registry} {f : Function} {functions : List Function} {key : String}

/-- The small forms of the names, in the order of registration. -/
def Registry.keys (registry : Registry) : List String :=
  registry.functions.map (·.1)

theorem Registry.keys_register :
    (registry.register f).keys =
      registry.keys.filter (· ≠ lowerText f.info.name) ++ [lowerText f.info.name] := by
  rw [keys, register, List.map_append, keys, List.filter_map]
  rfl

theorem Registry.mem_keys_register :
    key ∈ (registry.register f).keys ↔ key ∈ registry.keys ∨ lowerText f.info.name = key := by
  rw [keys_register, List.mem_append, List.mem_filter, List.mem_singleton, decide_eq_true_iff]
  by_cases same : key = lowerText f.info.name
  · simp [same]
  · simp [same, Ne.symm same]

theorem Registry.nodup_keys_register (once : registry.keys.Nodup) :
    (registry.register f).keys.Nodup := by
  rw [keys_register, List.nodup_append]
  refine ⟨once.filter _, List.nodup_singleton _, fun key inside other last => ?_⟩
  rw [List.mem_singleton.mp last]
  exact of_decide_eq_true (List.mem_filter.mp inside).2

/-- What holds of the registry before a number of registrations holds of it afterwards. -/
theorem Registry.mem_keys_foldl :
    key ∈ (functions.foldl register registry).keys ↔
      key ∈ registry.keys ∨ IsNameOf functions key := by
  induction functions generalizing registry with
  | nil => simp [IsNameOf]
  | cons f functions ih =>
    rw [List.foldl_cons, ih, mem_keys_register, IsNameOf, IsNameOf, List.exists_mem_cons_iff,
      or_assoc]

theorem Registry.nodup_keys_ofList (functions : List Function) : (ofList functions).keys.Nodup :=
  List.foldlRecOn (motive := fun registry : Registry => registry.keys.Nodup) functions _
    List.nodup_nil fun _ once _ _ => nodup_keys_register once

theorem Registry.mem_keys_ofList : key ∈ (ofList functions).keys ↔ IsNameOf functions key :=
  mem_keys_foldl.trans (or_iff_right List.not_mem_nil)

theorem Registry.mem_names_ofList : key ∈ (ofList functions).names ↔ IsNameOf functions key :=
  List.mem_mergeSort.trans mem_keys_ofList

/-- A name is missing if it is that of none of the functions. -/
theorem Registry.find?_ofList_eq_none {name : String} :
    (ofList functions).find? name = none ↔ ¬ IsNameOf functions (lowerText name) := by
  rw [← mem_keys_ofList, keys, find?, List.lookup_eq_none_iff, List.mem_map, not_exists]
  refine forall_congr' fun entry => ?_
  rw [not_and, bne_iff_ne, ne_comm]

/-- The names are listed in their order. -/
theorem Registry.pairwise_names_ofList (functions : List Function) :
    (ofList functions).names.Pairwise fun a b => compareText a b = .lt := by
  have atMost : ∀ a b : String,
      decide (compareText a b ≠ .gt) = true ↔ codePoints a ≤ codePoints b :=
    fun a b => decide_eq_true_iff.trans (compares_compareText a b).ne_gt
  have sorted : (ofList functions).names.Pairwise fun a b => codePoints a ≤ codePoints b := by
    refine (List.pairwise_mergeSort ?_ ?_ _).imp (atMost _ _).mp
    · intro a b c less less'
      exact (atMost a c).mpr (((atMost a b).mp less).trans ((atMost b c).mp less'))
    · intro a b
      rw [Bool.or_eq_true, atMost, atMost]
      exact le_total (codePoints a) (codePoints b)
  have once : (ofList functions).names.Nodup :=
    (List.mergeSort_perm _ _).nodup_iff.mpr (nodup_keys_ofList functions)
  refine (sorted.and once).imp fun {a b} both => (compares_compareText a b).eq_lt.mpr ?_
  exact both.1.lt_of_ne fun same => both.2 (codePoints_injective same)

end Names

/-! ## Close names -/

/-- The distance of a written name, in small letters, from another name. -/
def nameDistance (name key : String) : Nat :=
  editDistance (lowerText name).toList key.toList

/-- Whether a name is suggested ahead of another one: it is nearer, or as near and earlier in the
order of names. -/
def IsNearer (name key other : String) : Prop :=
  nameDistance name key < nameDistance name other ∨
    nameDistance name key = nameDistance name other ∧ compareText key other = .lt

/-- All names close to a given one, the nearest first. -/
def Registry.closeNames (registry : Registry) (name : String) : List String :=
  (registry.names.filter fun key => nameDistance name key ≤ suggestionDistance).mergeSort
    fun a b => nameDistance name a ≤ nameDistance name b

section CloseNames

variable {registry : Registry} {functions : List Function} {name key other : String}

/-- The suggestions are the first five of the close names. -/
theorem Registry.suggestions_eq :
    registry.suggestions name = (registry.closeNames name).take 5 := by
  have near : ((registry.names.map fun key => (nameDistance name key, key)).filter
      fun entry => entry.1 ≤ suggestionDistance) =
        (registry.names.filter fun key => nameDistance name key ≤ suggestionDistance).map
          fun key => (nameDistance name key, key) := by
    simp only [List.filter_map, Function.comp_def]
  rw [closeNames, ← map_snd_mergeSort (nameDistance name), ← near, ← List.map_take]
  rfl

theorem Registry.mem_closeNames_ofList :
    key ∈ (ofList functions).closeNames name ↔
      IsNameOf functions key ∧ nameDistance name key ≤ 2 := by
  rw [closeNames, List.mem_mergeSort, List.mem_filter, decide_eq_true_iff, mem_names_ofList,
    suggestionDistance]

/-- The close names are ranked by distance and name. -/
theorem Registry.pairwise_closeNames (functions : List Function) (name : String) :
    ((ofList functions).closeNames name).Pairwise (IsNearer name) :=
  pairwise_mergeSort_key ((pairwise_names_ofList functions).filter _)

theorem IsNearer.asymm (nearer : IsNearer name key other) : ¬ IsNearer name other key := by
  rintro (less | ⟨same, before⟩)
  · rcases nearer with less' | ⟨same', -⟩
    · exact Nat.lt_asymm less less'
    · exact Nat.ne_of_gt less same'
  · rcases nearer with less' | ⟨-, before'⟩
    · exact Nat.ne_of_gt less' same
    · rw [← compareText_swap, before'] at before
      cases before

/-- Ranked lists with the same names are the same. -/
theorem eq_of_pairwise_isNearer {near near' : List String} (ranked : near.Pairwise (IsNearer name))
    (ranked' : near'.Pairwise (IsNearer name)) (members : ∀ key, key ∈ near ↔ key ∈ near') :
    near = near' := by
  have once : Std.Irrefl (IsNearer name) := ⟨fun _ nearer => nearer.asymm nearer⟩
  have ordered : Std.Antisymm (IsNearer name) := ⟨fun _ _ ahead behind => absurd behind ahead.asymm⟩
  exact ranked.eq_of_mem_iff ranked' members

end CloseNames

/-! ## Suggestions -/

/-- The names that a missing one is answered with are the nearest ones. -/
theorem Registry.suggestions_nearest (functions : List Function) (name : String) :
    -- The distance is the least number of edits.
    (∀ key, IsLeast {n | Edits n (lowerText name).toList key.toList} (nameDistance name key)) ∧
    -- The first five of the close names are suggested, in the order of distances and names.
    (∃ near : List String,
      (∀ key, key ∈ near ↔ IsNameOf functions key ∧ nameDistance name key ≤ 2) ∧
      near.Pairwise (IsNearer name) ∧
      (ofList functions).suggestions name = near.take 5 ∧
      (ofList functions).unknownFunction name =
        if near = [] then .unknownName name
        else (FormulaError.unknownName name).withMessage
          ("Unknown function: " ++ name ++ ". Similar: " ++
            ", ".intercalate ((near.take 5).map upperText))) ∧
    -- There are none exactly if no name is close.
    ((ofList functions).suggestions name = [] ↔
      ∀ f ∈ functions, 2 < nameDistance name (lowerText f.info.name)) ∧
    -- They do not depend on how the names have been registered.
    (∀ others : List Function, (∀ key, IsNameOf others key ↔ IsNameOf functions key) →
      (ofList others).suggestions name = (ofList functions).suggestions name ∧
      (ofList others).unknownFunction name = (ofList functions).unknownFunction name) ∧
    -- A call of a function that is missing is answered with them.
    (¬ IsNameOf functions (lowerText name) → ∀ (awaiting : Bool) (args : List Operand),
      (ofList functions).call awaiting name args =
        .ofError ((ofList functions).unknownFunction name)) := by
  refine ⟨fun key => isLeast_editDistance _ _, ⟨(ofList functions).closeNames name,
    fun key => mem_closeNames_ofList, pairwise_closeNames functions name, suggestions_eq, ?message⟩,
    ?none, fun others same => ?order, fun missing awaiting args => ?call⟩
  case message =>
    rw [unknownFunction, suggestions_eq]
    cases (ofList functions).closeNames name with
    | nil => rfl
    | cons key near => rfl
  case none =>
    rw [suggestions_eq, List.take_eq_nil_iff, or_iff_right (by decide),
      List.eq_nil_iff_forall_not_mem]
    constructor
    · intro none f inside
      exact Nat.lt_of_not_le fun close =>
        none _ (mem_closeNames_ofList.mpr ⟨⟨f, inside, rfl⟩, close⟩)
    · intro far key close
      obtain ⟨⟨f, inside, rfl⟩, near⟩ := mem_closeNames_ofList.mp close
      exact Nat.not_le_of_lt (far f inside) near
  case order =>
    have near : (ofList others).closeNames name = (ofList functions).closeNames name := by
      refine eq_of_pairwise_isNearer (pairwise_closeNames others name)
        (pairwise_closeNames functions name) fun key => ?_
      rw [mem_closeNames_ofList, mem_closeNames_ofList, same]
    have suggested : (ofList others).suggestions name = (ofList functions).suggestions name := by
      rw [suggestions_eq, suggestions_eq, near]
    exact ⟨suggested, by rw [unknownFunction, unknownFunction, suggested]⟩
  case call => rw [call, find?_ofList_eq_none.mpr missing]

theorem Registry.suggestions_nearest_of_standard :
    (∀ key, IsNameOf standardFunctions.reverse key ↔ IsNameOf standardFunctions key) ∧
    ¬ IsNameOf standardFunctions (lowerText "Sumf") ∧
    (ofList standardFunctions.reverse).suggestions "Sumf" = ["sum", "sumif"] ∧
    (ofList standardFunctions).call false "Sumf" [] =
      .ofError ⟨.name, some "Unknown function: Sumf. Similar: SUM, SUMIF"⟩ := by
  have small : standardFunctions.map (fun f => lowerText f.info.name) =
      ["sum", "sumif", "countif", "averageif"] := by decide
  have names : ∀ key, IsNameOf standardFunctions key ↔
      key ∈ ["sum", "sumif", "countif", "averageif"] :=
    fun key => small ▸ List.mem_map.symm
  have same : ∀ key, IsNameOf standardFunctions.reverse key ↔ IsNameOf standardFunctions key := by
    intro key
    simp only [IsNameOf, List.mem_reverse]
  have missing : ¬ IsNameOf standardFunctions (lowerText "Sumf") := by
    rw [names]
    decide
  obtain ⟨-, ⟨near, members, ranked, suggested, message⟩, -, order, call⟩ :=
    suggestions_nearest standardFunctions "Sumf"
  have close : ["sum", "sumif", "countif", "averageif"].filter
      (fun key => nameDistance "Sumf" key ≤ 2) = ["sum", "sumif"] := by decide
  have two : near = ["sum", "sumif"] := by
    refine eq_of_pairwise_isNearer ranked (List.pairwise_pair.mpr (.inr (by decide))) fun key => ?_
    rw [members, names, ← close, List.mem_filter, decide_eq_true_iff]
  rw [two] at suggested message
  have sentence : "Unknown function: " ++ "Sumf" ++ ". Similar: " ++
      ", ".intercalate (["sum", "sumif"].map upperText) =
        "Unknown function: Sumf. Similar: SUM, SUMIF" := by decide
  refine ⟨same, missing, (order _ same).1.trans suggested, ?_⟩
  rw [call missing, message, if_neg (List.cons_ne_nil _ _)]
  exact congrArg (fun text => Operand.ofError ⟨.name, some text⟩) sentence

end Spreadsheet
