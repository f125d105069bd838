import Focal.Value.Bindings
import Mathlib.Data.Finset.Card
import Mathlib.Data.List.Pairwise

/-!
# Bindings after any insertions

What bindings answer depends on the last insertion of each name alone.  An insertion changes the
answer for its own name and no other (`get?_insert`) and keeps the entries in ascending order
(`Ascending.insert`), and bindings in ascending order are known by their answers
(`Ascending.eq_of_get?_eq`).  Everything that `ofList_exact` says about a sequence of insertions
follows from these.
-/

namespace Focal

/-! ## The order of bytes -/

theorem bytesLess_iff {first second : String} :
    bytesLess first second = true ↔ first.toUTF8.data.toList < second.toUTF8.data.toList :=
  decide_eq_true_iff

theorem bytesLess_irrefl (text : String) : ¬ bytesLess text text = true := by
  rw [bytesLess_iff]
  exact List.lt_irrefl _

theorem bytesLess_trans {first second third : String} (less : bytesLess first second = true)
    (lessNext : bytesLess second third = true) : bytesLess first third = true := by
  rw [bytesLess_iff] at *
  exact List.lt_trans less lessNext

/-- Of two texts one comes before the other, since no two texts have the same bytes. -/
theorem bytesLess_of_ne {first second : String} (different : first ≠ second)
    (notLess : ¬ bytesLess first second = true) : bytesLess second first = true := by
  rw [bytesLess_iff] at *
  by_contra notGreater
  have bytesEq := List.le_antisymm (List.not_lt.mp notGreater) (List.not_lt.mp notLess)
  exact different (String.toByteArray_inj.mp (ByteArray.ext (Array.toList_inj.mp bytesEq)))

namespace Bindings

variable {α : Type}

/-! ## One insertion -/

theorem get?_cons (name key other : String) (value : α) (rest : List (String × α)) :
    get? ⟨name, (key, value) :: rest⟩ other =
      if key = other then some value else get? ⟨name, rest⟩ other := by
  by_cases same : key = other <;> simp [get?, same]

theorem get?_insertBinding (name key other : String) (value : α) (entries : List (String × α)) :
    get? ⟨name, insertBinding key value entries⟩ other =
      if key = other then some value else get? ⟨name, entries⟩ other := by
  induction entries with
  | nil => exact get?_cons name key other value []
  | cons entry rest ih =>
      obtain ⟨first, bound⟩ := entry
      rw [insertBinding]
      by_cases replaces : key = first
      · obtain rfl := replaces
        rw [if_pos rfl, get?_cons, get?_cons]
        split_ifs <;> rfl
      rw [if_neg replaces]
      by_cases goesFirst : bytesLess key first = true
      · rw [if_pos goesFirst, get?_cons]
      · rw [if_neg goesFirst, get?_cons, get?_cons, ih]
        by_cases found : first = other
        · obtain rfl := found
          rw [if_pos rfl, if_neg replaces, if_pos rfl]
        · rw [if_neg found, if_neg found]

/-- An insertion binds its own name and leaves every other one as it is. -/
theorem get?_insert (bindings : Bindings α) (key other : String) (value : α) :
    (bindings.insert key value).get? other =
      if key = other then some value else bindings.get? other :=
  get?_insertBinding bindings.name key other value bindings.entries

/-- The bound names are those that have a value. -/
theorem mem_names_iff {bindings : Bindings α} {key : String} :
    key ∈ bindings.names ↔ bindings.get? key ≠ none := by
  simp [names, get?, Option.map_eq_none_iff, List.find?_eq_none]

theorem mem_names_insert {bindings : Bindings α} {key other : String} {value : α} :
    other ∈ (bindings.insert key value).names ↔ key = other ∨ other ∈ bindings.names := by
  rw [mem_names_iff, mem_names_iff, get?_insert]
  by_cases same : key = other <;> simp [same]

/-! ## Ascending entries -/

/-- The names of the entries ascend, so that no name stands twice. -/
def Ascending (bindings : Bindings α) : Prop :=
  bindings.names.Pairwise fun first second => bytesLess first second = true

theorem ascending_empty (name : String) : Ascending (empty name : Bindings α) :=
  List.Pairwise.nil

/-- An insertion puts its entry where it belongs. -/
theorem Ascending.insert {bindings : Bindings α} (ascending : bindings.Ascending) (key : String)
    (value : α) : (bindings.insert key value).Ascending := by
  obtain ⟨name, entries⟩ := bindings
  induction entries with
  | nil => exact List.pairwise_singleton _ key
  | cons entry rest ih =>
      obtain ⟨first, bound⟩ := entry
      obtain ⟨firstLess, restAscending⟩ := List.pairwise_cons.mp ascending
      simp only [Bindings.insert, insertBinding]
      split_ifs with replaces goesFirst
      · obtain rfl := replaces
        exact ascending
      · refine List.pairwise_cons.mpr ⟨fun other member => ?_, ascending⟩
        rcases List.mem_cons.mp member with rfl | later
        · exact goesFirst
        · exact bytesLess_trans goesFirst (firstLess other later)
      · refine List.pairwise_cons.mpr ⟨fun other member => ?_, ih restAscending⟩
        rcases (@mem_names_insert _ ⟨name, rest⟩ _ _ _).mp member with rfl | later
        · exact bytesLess_of_ne replaces goesFirst
        · exact firstLess other later

theorem Ascending.nodup {bindings : Bindings α} (ascending : bindings.Ascending) :
    bindings.names.Nodup := by
  refine List.Pairwise.imp ?_ ascending
  rintro first _ less rfl
  exact bytesLess_irrefl first less

/-- When no name stands twice, each entry is what its name is bound to. -/
theorem mem_entries_iff {bindings : Bindings α} (nodup : bindings.names.Nodup)
    {entry : String × α} : entry ∈ bindings.entries ↔ bindings.get? entry.1 = some entry.2 := by
  obtain ⟨name, entries⟩ := bindings
  obtain ⟨key, value⟩ := entry
  induction entries with
  | nil => simp [get?]
  | cons entry rest ih =>
      obtain ⟨first, bound⟩ := entry
      obtain ⟨absent, restNodup⟩ := List.nodup_cons.mp nodup
      rw [List.mem_cons, Prod.mk.injEq, get?_cons, ih restNodup]
      by_cases same : first = key
      · obtain rfl := same
        have unbound : get? ⟨name, rest⟩ first = none := by
          by_contra isBound
          exact absent (mem_names_iff.mpr isBound)
        simp [unbound, eq_comm]
      · simp [same, Ne.symm same]

/-- Bindings in ascending order are known by their values. -/
theorem Ascending.eq_of_get?_eq {first second : Bindings α} (ascending : first.Ascending)
    (ascendingToo : second.Ascending) (nameEq : first.name = second.name)
    (same : ∀ key, first.get? key = second.get? key) : first = second := by
  -- The answers give the same entries, and only one order of them ascends.
  have perm : first.entries.Perm second.entries := by
    rw [List.perm_ext_iff_of_nodup ascending.nodup.of_map ascendingToo.nodup.of_map]
    intro entry
    rw [mem_entries_iff ascending.nodup, mem_entries_iff ascendingToo.nodup, same]
  have asymm : ∀ one other : String × α, one ∈ first.entries → other ∈ second.entries →
      bytesLess one.1 other.1 = true → bytesLess other.1 one.1 = true → one = other :=
    fun one _ _ _ less greater => absurd (bytesLess_trans less greater) (bytesLess_irrefl one.1)
  obtain ⟨name, entries⟩ := first
  obtain rfl := nameEq
  obtain rfl := perm.eq_of_pairwise asymm (List.pairwise_map.mp ascending)
    (List.pairwise_map.mp ascendingToo)
  rfl

/-- Insertions of different names can change places. -/
theorem Ascending.insert_comm {bindings : Bindings α} (ascending : bindings.Ascending)
    {key other : String} (different : key ≠ other) (value bound : α) :
    (bindings.insert key value).insert other bound =
      (bindings.insert other bound).insert key value := by
  refine Ascending.eq_of_get?_eq ((ascending.insert key value).insert other bound)
    ((ascending.insert other bound).insert key value) rfl fun asked => ?_
  simp only [get?_insert]
  split_ifs with isOther isKey
  · exact absurd (isKey.trans isOther.symm) different
  all_goals rfl

/-! ## Any insertions -/

theorem ofList_append (name : String) (before after : List (String × α)) :
    ofList name (before ++ after) =
      after.foldl (fun bindings entry => bindings.insert entry.1 entry.2) (ofList name before) :=
  List.foldl_append

theorem ofList_append_singleton (name : String) (before : List (String × α)) (entry : String × α) :
    ofList name (before ++ [entry]) = (ofList name before).insert entry.1 entry.2 :=
  ofList_append name before [entry]

/-- Whatever is inserted, the entries are in ascending order. -/
theorem ascending_ofList (name : String) (insertions : List (String × α)) :
    (ofList name insertions).Ascending := by
  induction insertions using List.reverseRecOn with
  | nil => exact ascending_empty name
  | append_singleton before entry ih =>
      rw [ofList_append_singleton]
      exact ih.insert entry.1 entry.2

/-- The bound names are the inserted ones. -/
theorem mem_names_ofList {name key : String} {insertions : List (String × α)} :
    key ∈ (ofList name insertions).names ↔ key ∈ insertions.map Prod.fst := by
  induction insertions using List.reverseRecOn with
  | nil => exact Iff.rfl
  | append_singleton before entry ih =>
      rw [ofList_append_singleton, mem_names_insert, ih, List.map_append, List.mem_append,
        List.map_singleton, List.mem_singleton, eq_comm, or_comm]

/-- Insertions of other names behind one do not change what its name is bound to. -/
theorem get?_ofList_of_last {name key : String} {value : α} {before after : List (String × α)}
    (last : key ∉ after.map Prod.fst) :
    (ofList name (before ++ (key, value) :: after)).get? key = some value := by
  -- The entries behind the last insertion of the name are taken off from the end, as they came.
  induction after using List.reverseRecOn with
  | nil => rw [ofList_append_singleton, get?_insert, if_pos rfl]
  | append_singleton after entry ih =>
      rw [List.map_append, List.mem_append, not_or] at last
      have different : entry.1 ≠ key := by simpa [eq_comm] using last.2
      rw [← List.cons_append, ← List.append_assoc, ofList_append_singleton, get?_insert,
        if_neg different, ih last.1]

/-- An inserted name has a last insertion. -/
theorem exists_last_insertion {key : String} {insertions : List (String × α)}
    (inserted : key ∈ insertions.map Prod.fst) :
    ∃ before value after, insertions = before ++ (key, value) :: after ∧
      key ∉ after.map Prod.fst := by
  induction insertions with
  | nil => cases inserted
  | cons entry rest ih =>
      by_cases later : key ∈ rest.map Prod.fst
      · obtain ⟨before, value, after, rfl, last⟩ := ih later
        exact ⟨entry :: before, value, after, rfl, last⟩
      · obtain rfl : key = entry.1 := by simpa [later] using inserted
        exact ⟨[], entry.2, rest, rfl, later⟩

/-- A name is bound to the value of its last insertion. -/
theorem get?_ofList_eq_some_iff {name key : String} {value : α} {insertions : List (String × α)} :
    (ofList name insertions).get? key = some value ↔
      ∃ before after, insertions = before ++ (key, value) :: after ∧
        key ∉ after.map Prod.fst := by
  constructor
  · intro found
    have inserted := mem_names_ofList.mp (mem_names_iff.mpr (found ▸ Option.some_ne_none value))
    obtain ⟨before, other, after, rfl, last⟩ := exists_last_insertion inserted
    obtain rfl := Option.some.inj ((get?_ofList_of_last last).symm.trans found)
    exact ⟨before, after, rfl, last⟩
  · rintro ⟨before, after, rfl, last⟩
    exact get?_ofList_of_last last

/-- As many names are bound as different ones were inserted. -/
theorem length_names_ofList (name : String) (insertions : List (String × α)) :
    (ofList name insertions).names.length = (insertions.map Prod.fst).toFinset.card := by
  rw [← List.toFinset_card_of_nodup (ascending_ofList name insertions).nodup]
  congr 1
  ext key
  rw [List.mem_toFinset, List.mem_toFinset, mem_names_ofList]

theorem isEmpty_ofList {name : String} {insertions : List (String × α)} :
    (ofList name insertions).isEmpty = true ↔ insertions = [] := by
  have noEntries : (ofList name insertions).entries = [] ↔ (ofList name insertions).names = [] :=
    List.map_eq_nil_iff.symm
  have noInsertions : insertions = [] ↔ insertions.map Prod.fst = [] :=
    List.map_eq_nil_iff.symm
  rw [isEmpty, List.isEmpty_iff, noEntries, noInsertions]
  simp only [List.eq_nil_iff_forall_not_mem, mem_names_ofList]

/-- What bindings answer after any sequence of insertions.  A name is bound to the value of its last
insertion, and not bound if it was not inserted; the names are the inserted ones, in ascending order
of their bytes; the size counts the different ones; there are no bindings exactly if nothing was
inserted.  Of two insertions of different names it makes no difference which comes first, whatever
is inserted before and after them. -/
theorem ofList_exact (name : String) (insertions : List (String × α)) :
    let bindings := ofList name insertions
    (∀ key value, bindings.get? key = some value ↔
      ∃ before after, insertions = before ++ (key, value) :: after ∧
        key ∉ after.map Prod.fst) ∧
    (∀ key, bindings.get? key = none ↔ key ∉ insertions.map Prod.fst) ∧
    (bindings.names.Pairwise fun first second =>
      first.toUTF8.data.toList < second.toUTF8.data.toList) ∧
    (∀ key, key ∈ bindings.names ↔ key ∈ insertions.map Prod.fst) ∧
    bindings.size = (insertions.map Prod.fst).toFinset.card ∧
    bindings.size = bindings.names.length ∧
    (bindings.isEmpty = true ↔ insertions = []) ∧
    ∀ (first second : String × α) (after : List (String × α)), first.1 ≠ second.1 →
      ofList name (insertions ++ first :: second :: after) =
        ofList name (insertions ++ second :: first :: after) := by
  intro bindings
  have sizeEq : bindings.size = bindings.names.length :=
    (List.length_map Prod.fst).symm
  refine ⟨fun key value => get?_ofList_eq_some_iff, fun key => ?_, ?_,
    fun key => mem_names_ofList, sizeEq.trans (length_names_ofList name insertions), sizeEq,
    isEmpty_ofList, fun first second after different => ?_⟩
  · rw [← @mem_names_ofList _ name, mem_names_iff, not_not]
  · exact (ascending_ofList name insertions).imp bytesLess_iff.mp
  · have swapped := (ascending_ofList name insertions).insert_comm different first.2 second.2
    rw [ofList_append, ofList_append, List.foldl_cons, List.foldl_cons, List.foldl_cons,
      List.foldl_cons, swapped]

/-- A name inserted twice, and two names that can be inserted in either order. -/
theorem ofList_exact_replaced :
    let insertions := [("b", 1), ("a", 2), ("b", 3)]
    (ofList "letters" insertions).get? "b" = some 3 ∧
      (ofList "letters" insertions).get? "c" = none ∧
      (ofList "letters" insertions).size = 2 ∧ ("a", 4).1 ≠ ("b", 5).1 ∧
      ofList "letters" (insertions ++ [("a", 4), ("b", 5)]) =
        ofList "letters" (insertions ++ [("b", 5), ("a", 4)]) := by
  intro insertions
  obtain ⟨found, missing, -, -, counted, -, -, swapped⟩ := ofList_exact "letters" insertions
  have different : ("a", 4).1 ≠ ("b", 5).1 := by decide
  refine ⟨(found "b" 3).mpr ⟨[("b", 1), ("a", 2)], [], rfl, by decide⟩,
    (missing "c").mpr (by decide), ?_, different, swapped ("a", 4) ("b", 5) [] different⟩
  rw [counted]
  decide

end Bindings

end Focal
