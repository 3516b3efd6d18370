/-
# How the loaders fail

Items, members and variables are loaded in order, and what is reported is what is wrong with the first
one that cannot be loaded, one step further down.  `FirstWhere` says so of any list: everything before
some item passes, and the item is found to be something at its index.

Numbers nested in lists fail in one way at every depth: something on the way is no list, or something
at the bottom is no number (`Misplaced`).  A matrix can fail in one more way, when all numbers are
there but the rows are uneven.
-/

import FigureForm.Proofs.ItemLoading

namespace FigureForm

/-! ## The first of a list -/

section FirstWhere

variable {α : Type} {passes : α → Prop} {found : Nat → α → Prop}

/-- Everything before some item of a list passes, and the item is found to be something at its
index. -/
def FirstWhere (passes : α → Prop) (found : Nat → α → Prop) (items : List α) : Prop :=
  ∃ before item after, items = before ++ item :: after ∧ (∀ earlier ∈ before, passes earlier) ∧
    found before.length item

theorem not_firstWhere_nil : ¬ FirstWhere passes found [] := by
  rintro ⟨before, item, after, split, -⟩
  simp at split

theorem firstWhere_cons_iff {item : α} {rest : List α} :
    FirstWhere passes found (item :: rest) ↔
      found 0 item ∨ passes item ∧ FirstWhere passes (fun index => found (index + 1)) rest := by
  constructor
  · rintro ⟨before, other, after, split, earlier, isFound⟩
    cases before with
    | nil =>
      cases split
      exact .inl isFound
    | cons first before =>
      cases split
      obtain ⟨passed, earlier⟩ := List.forall_mem_cons.mp earlier
      exact .inr ⟨passed, before, other, after, rfl, earlier, isFound⟩
  · rintro (isFound | ⟨passed, before, other, after, rfl, earlier, isFound⟩)
    · exact ⟨[], item, rest, rfl, fun _ none => (nomatch none), isFound⟩
    · exact ⟨item :: before, other, after, rfl, List.forall_mem_cons.mpr ⟨passed, earlier⟩, isFound⟩

theorem FirstWhere.imp {items : List α} {passes' : α → Prop} {found' : Nat → α → Prop}
    (pass : ∀ item ∈ items, passes item → passes' item)
    (find : ∀ index, ∀ item ∈ items, found index item → found' index item)
    (first : FirstWhere passes found items) : FirstWhere passes' found' items := by
  obtain ⟨before, item, after, rfl, earlier, isFound⟩ := first
  refine ⟨before, item, after, rfl, fun other member => ?_, ?_⟩
  · exact pass other (List.mem_append_left _ member) (earlier other member)
  · exact find _ item (List.mem_append_right _ List.mem_cons_self) isFound

theorem firstWhere_congr {items : List α} {passes' : α → Prop} {found' : Nat → α → Prop}
    (pass : ∀ item ∈ items, passes item ↔ passes' item)
    (find : ∀ index, ∀ item ∈ items, found index item ↔ found' index item) :
    FirstWhere passes found items ↔ FirstWhere passes' found' items :=
  ⟨.imp (fun item among => (pass item among).mp) fun index item among => (find index item among).mp,
    .imp (fun item among => (pass item among).mpr)
      fun index item among => (find index item among).mpr⟩

/-- The item at which a list is split stands at the index that the items before it make up. -/
theorem getElem?_of_split {items before after : List α} {item : α}
    (split : items = before ++ item :: after) : items[before.length]? = some item := by
  rw [split, List.getElem?_append_right (Nat.le_refl _), Nat.sub_self, List.getElem?_cons_zero]

theorem mem_of_split {items before after : List α} {item : α}
    (split : items = before ++ item :: after) : item ∈ items :=
  List.mem_of_getElem? (getElem?_of_split split)

end FirstWhere

namespace Record

open Json

/-! ## Items, members and variables in order -/

theorem below_eq_error_iff {α : Type} {step : Step} {outcome : Loaded α} {address : List Step}
    {defect : Defect} :
    below step outcome = .error ⟨address, defect⟩ ↔
      ∃ inner, address = step :: inner ∧ outcome = .error ⟨inner, defect⟩ := by
  cases outcome with
  | ok value =>
    constructor
    · intro impossible
      cases impossible
    · rintro ⟨inner, -, impossible⟩
      cases impossible
  | error malformed =>
    constructor
    · intro same
      cases same
      exact ⟨malformed.address, rfl, rfl⟩
    · rintro ⟨inner, rfl, same⟩
      cases same
      rfl

theorem below_eq_ok_iff {α : Type} {step : Step} {outcome : Loaded α} {value : α} :
    below step outcome = .ok value ↔ outcome = .ok value :=
  mapError_eq_ok_iff

variable {address : List Step} {defect : Defect}

/-- Items fail with the first that fails. -/
theorem loadItems_eq_error_iff {α : Type} {load : Json → Loaded α} {index : Nat}
    {items : List Json} :
    loadItems load index items = .error ⟨address, defect⟩ ↔
      FirstWhere (fun item => ∃ value, load item = .ok value)
        (fun place item => ∃ inner, address = .item (index + place) :: inner ∧
          load item = .error ⟨inner, defect⟩) items := by
  induction items generalizing index with
  | nil =>
    constructor
    · intro impossible
      cases impossible
    · exact fun first => absurd first not_firstWhere_nil
  | cons item rest ih =>
    rw [loadItems, bind_eq_error_iff, firstWhere_cons_iff]
    simp only [bind_pure_eq_error_iff, below_eq_error_iff, below_eq_ok_iff, ih, exists_and_right,
      Nat.add_zero, Nat.add_right_comm _ 1, Nat.add_assoc]

/-- Members fail with the first that fails. -/
theorem loadMembers_eq_error_iff {start : Element} {members : List (String × Json)} :
    loadMembers start members = .error ⟨address, defect⟩ ↔
      FirstWhere (fun member => ∃ value, load member.2 = .ok value)
        (fun _ member => ∃ inner, address = .member member.1 :: inner ∧
          load member.2 = .error ⟨inner, defect⟩) members := by
  induction members generalizing start with
  | nil =>
    rw [loadMembers]
    constructor
    · intro impossible
      cases impossible
    · exact fun first => absurd first not_firstWhere_nil
  | cons member rest ih =>
    obtain ⟨name, json⟩ := member
    rw [loadMembers, bind_eq_error_iff, firstWhere_cons_iff]
    simp only [below_eq_error_iff, below_eq_ok_iff, ih, exists_and_right]

end Record

/-- Variables fail with the first that fails. -/
theorem Dump.loadVariables_eq_error_iff {address : List Json.Step} {defect : Defect}
    {members : List (String × Json)} :
    loadVariables members = .error ⟨address, defect⟩ ↔
      FirstWhere (fun member => ∃ record, Record.loadVariable member.2 = .ok record)
        (fun _ member => ∃ inner, address = .member member.1 :: inner ∧
          Record.loadVariable member.2 = .error ⟨inner, defect⟩) members := by
  induction members with
  | nil =>
    constructor
    · intro impossible
      cases impossible
    · exact fun first => absurd first not_firstWhere_nil
  | cons member rest ih =>
    obtain ⟨name, json⟩ := member
    rw [loadVariables, bind_eq_error_iff, firstWhere_cons_iff]
    simp only [bind_pure_eq_error_iff, Record.below_eq_error_iff, Record.below_eq_ok_iff, ih,
      exists_and_right]

/-! ## Numbers in lists -/

namespace Json

/-- Numbers, nested in lists to a depth. -/
def Numbers : Nat → Json → Prop
  | 0, json => json.isNumeric
  | depth + 1, json => ∃ items, json = .list items ∧ ∀ item ∈ items, Numbers depth item

/-- The first value, in the order of the text, that keeps a value from being numbers nested to a
depth, with its address. -/
inductive Misplaced : Nat → Json → List Step → Json → Defect → Prop
  | number {json : Json} (notNumeric : ¬ json.isNumeric) :
      Misplaced 0 json [] json .expectedNumber
  | list {depth : Nat} {json : Json} (notList : ¬ json.isList) :
      Misplaced (depth + 1) json [] json .expectedList
  | item {depth : Nat} {items before after : List Json} {item value : Json} {address : List Step}
      {defect : Defect} (split : items = before ++ item :: after)
      (earlier : ∀ other ∈ before, Numbers depth other)
      (inside : Misplaced depth item address value defect) :
      Misplaced (depth + 1) (.list items) (.item before.length :: address) value defect

theorem numbers_list_iff {depth : Nat} {items : List Json} :
    Numbers (depth + 1) (.list items) ↔ ∀ item ∈ items, Numbers depth item := by
  constructor
  · rintro ⟨_, same, each⟩
    cases same
    exact each
  · exact fun each => ⟨items, rfl, each⟩

theorem misplaced_list_iff {depth : Nat} {items : List Json} {address : List Step} {value : Json}
    {defect : Defect} :
    Misplaced (depth + 1) (.list items) address value defect ↔
      FirstWhere (Numbers depth) (fun place item => ∃ inner, address = .item place :: inner ∧
        Misplaced depth item inner value defect) items := by
  constructor
  · intro misplaced
    cases misplaced with
    | list notList => exact absurd rfl notList
    | item split earlier inside => exact ⟨_, _, _, split, earlier, _, rfl, inside⟩
  · rintro ⟨before, item, after, split, earlier, inner, rfl, inside⟩
    exact .item split earlier inside

end Json

namespace Record

open Json

/-- A loader of numbers nested to a depth: it answers for these, and otherwise reports the value that
is misplaced. -/
structure ReadsNumbers {α : Type} (load : Json → Loaded α) (depth : Nat) : Prop where
  ok : ∀ json, (∃ value, load json = .ok value) ↔ Numbers depth json
  error : ∀ json address defect, load json = .error ⟨address, defect⟩ ↔
    ∃ value, Misplaced depth json address value defect

theorem readsNumbers_loadNumber : ReadsNumbers loadNumber 0 where
  ok _ := exists_loadNumber_iff
  error json address defect := by
    constructor
    · intro failed
      have notNumeric : ¬ json.isNumeric := by
        intro numeric
        obtain ⟨value, loaded⟩ := exists_loadNumber_iff.mpr numeric
        cases loaded.symm.trans failed
      have reported : loadNumber json = reject .expectedNumber := by
        cases json with
        | null | boolean value | number value => exact absurd rfl notNumeric
        | text _ | list _ | object _ => rfl
      cases reported.symm.trans failed
      exact ⟨json, .number notNumeric⟩
    · rintro ⟨value, misplaced⟩
      cases misplaced with
      | number notNumeric =>
        cases json with
        | null | boolean value | number value => exact absurd rfl notNumeric
        | text _ | list _ | object _ => rfl

variable {α : Type} {load : Json → Loaded α} {depth : Nat}

/-- One level of lists more. -/
theorem ReadsNumbers.list (reads : ReadsNumbers load depth) :
    ReadsNumbers (loadList load) (depth + 1) where
  ok json := by
    cases json with
    | list items =>
      rw [loadList, exists_loadItems_iff, numbers_list_iff]
      exact forall₂_congr fun item _ => reads.ok item
    | _ => simp [loadList, reject, Numbers]
  error json address defect := by
    cases json with
    | list items =>
      simp only [loadList, loadItems_eq_error_iff, misplaced_list_iff, reads.ok, reads.error,
        Nat.zero_add]
      constructor
      · rintro ⟨before, item, after, split, earlier, inner, isAddress, value, inside⟩
        exact ⟨value, before, item, after, split, earlier, inner, isAddress, inside⟩
      · rintro ⟨value, before, item, after, split, earlier, inner, isAddress, inside⟩
        exact ⟨before, item, after, split, earlier, inner, isAddress, value, inside⟩
    | _ =>
      constructor
      · intro failed
        cases failed
        exact ⟨_, .list (by simp [isList])⟩
      · rintro ⟨value, misplaced⟩
        cases misplaced
        rfl

theorem even_eq_error_iff {made : Option Matrix} {address : List Step} {defect : Defect} :
    even made = .error ⟨address, defect⟩ ↔ made = none ∧ address = [] ∧ defect = .ragged := by
  cases made with
  | some matrix => simp [even]
  | none => simp [even, reject, eq_comm]

/-! ## Matrices -/

/-- How deep the numbers of a matrix are in its list: rows, or rows of pixels. -/
def nesting (items : List Json) : Nat :=
  if hasPixels items then 3 else 2

/-- A matrix of nested numbers fails where one is misplaced, or else as a whole. -/
theorem even_of_loaded_eq_error_iff (reads : ReadsNumbers load depth) {items : List Json}
    {make : List α → Option Matrix} {address : List Step} {defect : Defect} :
    (do even (make (← loadItems load 0 items)) : Loaded Matrix) = .error ⟨address, defect⟩ ↔
      (∃ value, Misplaced (depth + 1) (.list items) address value defect) ∨
        Numbers (depth + 1) (.list items) ∧
          (¬ ∃ matrix, (do even (make (← loadItems load 0 items)) : Loaded Matrix) = .ok matrix) ∧
          address = [] ∧ defect = .ragged := by
  have numbers := reads.list.ok (.list items)
  have misplaced := reads.list.error (.list items) address defect
  simp only [loadList] at numbers misplaced
  rw [bind_eq_error_iff, misplaced, ← numbers]
  apply or_congr_right
  simp only [even_eq_error_iff, bind_eq_ok_iff, even_eq_ok_iff]
  constructor
  · rintro ⟨rows, loaded, uneven, isTop, isRagged⟩
    -- A second reading of the same list would give the same rows, so that no other matrix is left.
    refine ⟨⟨rows, loaded⟩, ?_, isTop, isRagged⟩
    rintro ⟨matrix, others, again, made⟩
    cases loaded.symm.trans again
    cases uneven.symm.trans made
  · rintro ⟨⟨rows, loaded⟩, uneven, isTop, isRagged⟩
    refine ⟨rows, loaded, ?_, isTop, isRagged⟩
    apply Option.eq_none_iff_forall_ne_some.mpr
    exact fun matrix made => uneven ⟨matrix, rows, loaded, made⟩

theorem loadMatrix_eq_error_iff {items : List Json} {address : List Step} {defect : Defect} :
    loadMatrix items = .error ⟨address, defect⟩ ↔
      (∃ value, Misplaced (nesting items) (.list items) address value defect) ∨
        Numbers (nesting items) (.list items) ∧ (¬ ∃ matrix, loadMatrix items = .ok matrix) ∧
          address = [] ∧ defect = .ragged := by
  have reads := readsNumbers_loadNumber.list
  unfold nesting loadMatrix
  cases hasPixels items with
  | false => exact even_of_loaded_eq_error_iff reads
  | true => exact even_of_loaded_eq_error_iff reads.list

end Record

end FigureForm
