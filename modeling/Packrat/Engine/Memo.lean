import Packrat.Plan
import Std.Data.TreeMap.Lemmas
/-!
# Memo tables

What a run remembers of each parser at each offset. An entry is made when the
parser begins to run and is filled in when it has ended; an entry that is
still in progress when the parser is asked for again shows a left recursion.
-/

namespace Packrat

/-- What is remembered of a parser at an offset. -/
inductive Memo where
  /-- The parser is still running. -/
  | inProgress
  | failed
  | matched (m : Match)

/-- What is remembered of a parser that has run. -/
def Memo.ofResult : Option Match → Memo
  | some m => .matched m
  | none => .failed

theorem Memo.ofResult_ne_inProgress (result : Option Match) :
    Memo.ofResult result ≠ .inProgress := by
  cases result <;> exact nofun

/-- What is remembered tells how the parser ended. -/
theorem Memo.ofResult_inj {result result' : Option Match}
    (h : Memo.ofResult result = Memo.ofResult result') : result = result' := by
  cases result <;> cases result' <;> simp_all [Memo.ofResult]

/-- A parser at an offset. -/
structure MemoKey where
  slot : SlotId
  offset : Nat
deriving Repr, DecidableEq

/-- The order of keys: by offset, then by slot. -/
def MemoKey.order : MemoKey → MemoKey → Ordering :=
  compareLex (compareOn (·.offset)) (compareOn (·.slot))

instance : Std.TransCmp MemoKey.order := by unfold MemoKey.order; infer_instance

instance : Std.LawfulEqCmp MemoKey.order where
  eq_of_compare {a b} h := by
    cases a; cases b
    simp only [MemoKey.order, compareLex, compareOn, Ordering.then_eq_eq,
      Std.LawfulEqCmp.compare_eq_iff_eq] at h
    simp [h]

/-- The entries of a run by parser and offset. -/
structure MemoTable where
  entries : Std.TreeMap MemoKey Memo MemoKey.order

namespace MemoTable

/-- The table with no entry. -/
def empty : MemoTable := ⟨∅⟩

/-- The entry of a parser at an offset. -/
def find? (table : MemoTable) (slot : SlotId) (offset : Nat) : Option Memo :=
  table.entries[(⟨slot, offset⟩ : MemoKey)]?

/-- Sets the entry of a parser at an offset. -/
def insert (table : MemoTable) (slot : SlotId) (offset : Nat) (memo : Memo) : MemoTable :=
  ⟨table.entries.insert ⟨slot, offset⟩ memo⟩

/-- Removes the entry of a parser at an offset. -/
def erase (table : MemoTable) (slot : SlotId) (offset : Nat) : MemoTable :=
  ⟨table.entries.erase ⟨slot, offset⟩⟩

/-- The number of entries. -/
def size (table : MemoTable) : Nat := table.entries.size

@[simp] theorem find?_empty (slot : SlotId) (offset : Nat) :
    empty.find? slot offset = none := by
  simp [empty, find?]

/-- An entry that is set is found, and the others stay. -/
theorem find?_insert (table : MemoTable) (slot slot' : SlotId) (offset offset' : Nat)
    (memo : Memo) :
    (table.insert slot offset memo).find? slot' offset' =
      if slot = slot' ∧ offset = offset' then some memo else table.find? slot' offset' := by
  simp only [find?, insert, Std.TreeMap.getElem?_insert, Std.LawfulEqCmp.compare_eq_iff_eq]
  simp

/-- An entry that is removed is not found, and the others stay. -/
theorem find?_erase (table : MemoTable) (slot slot' : SlotId) (offset offset' : Nat) :
    (table.erase slot offset).find? slot' offset' =
      if slot = slot' ∧ offset = offset' then none else table.find? slot' offset' := by
  simp only [find?, erase, Std.TreeMap.getElem?_erase, Std.LawfulEqCmp.compare_eq_iff_eq]
  simp

end MemoTable

end Packrat
