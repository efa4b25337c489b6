import LeftRec.Memo.Table
import Std.Data.TreeMap

/-!
# A memo table in key order
-/

namespace LeftRec

/-- A memo table that is a balanced search tree. -/
abbrev OrderedTable (ε : Type) := Std.TreeMap Slot ε slotOrder

instance : Std.LawfulEqCmp slotOrder where
  compare_self := by simp [slotOrder, compareLex, compareOn]
  eq_of_compare {a b} h := by
    obtain ⟨hkey, hpos⟩ := compareLex_eq_eq.1 h
    exact Prod.ext (Std.LawfulEqCmp.eq_of_compare hkey) (Std.LawfulEqCmp.eq_of_compare hpos)

instance : Std.TransCmp slotOrder :=
  inferInstanceAs (Std.TransCmp (compareLex (compareOn Prod.fst) (compareOn Prod.snd)))

instance : MemoTable OrderedTable where
  empty := ∅
  get? table slot := table[slot]?
  insert table slot entry := table.insert slot entry
  size table := table.size
  slots table := table.keys

instance : LawfulMemoTable OrderedTable where
  get?_empty _ := Std.TreeMap.getElem?_emptyc
  get?_insert table slot other entry := by
    simp [MemoTable.get?, MemoTable.insert, Std.TreeMap.getElem?_insert]
  mem_slots table slot := by
    simp [MemoTable.get?, MemoTable.slots]
  nodup_slots table := by
    simpa [MemoTable.slots] using table.nodup_keys
  length_slots table := Std.TreeMap.length_keys

end LeftRec
