import LineFraming.History
import LineFraming.Proofs.Text.Lines
import Mathlib.Data.List.Destutter

/-!
# What the history recalls

The history looks at one command at a time, and only at the last of those that it has kept. By then
the command in front of that one may have been dropped, and blank input was never there. It makes no
difference: what the history holds are the last commands of a list that is made without any bound,
from all the input at once.

The reason is the last entry. Making room takes entries from the other end, so unless the history
holds none at all, its last entry is the last command of the whole list, and a command repeats the
one if it repeats the other.

## Main definitions

* `History.recallable` — the commands that are worth recalling
* `History.Recalls` — the history holds the last of the commands

## Main results

* `History.Recalls.add` — one more command
* `History.entries_eq_rtake` — the history is the end of the list of all commands
-/

namespace LineFraming

namespace History

/-! ### The end of a list -/

section Lists

variable {α : Type} {l : List α} {a : α} {n : Nat}

/-- Unless nothing is taken, the end of a list ends as the list does. -/
theorem getLast?_rtake (l : List α) (hn : 0 < n) : (l.rtake n).getLast? = l.getLast? := by
  rw [List.rtake, List.getLast?_drop]
  cases l with
  | nil => rfl
  | cons b l => rw [if_neg (by rw [List.length_cons]; omega)]

/-- Of the last `n + 1` elements, the first makes room if there are so many. -/
theorem rtake_eq_ite (l : List α) (n : Nat) :
    l.rtake n =
      if (l.rtake (n + 1)).length = n + 1 then (l.rtake (n + 1)).drop 1 else l.rtake (n + 1) := by
  simp only [List.rtake, List.length_drop, List.drop_drop]
  split_ifs with h
  · congr 1
    omega
  · rw [Nat.sub_eq_zero_of_le (by omega), Nat.sub_eq_zero_of_le (by omega)]

variable [DecidableEq α]

/-- Collapsing starts behind the first element as it does anywhere. -/
theorem destutter'_concat (l : List α) (a b : α) :
    (l ++ [a]).destutter' (· ≠ ·) b =
      if (l.destutter' (· ≠ ·) b).getLast? = some a then l.destutter' (· ≠ ·) b
      else l.destutter' (· ≠ ·) b ++ [a] := by
  induction l generalizing b with
  | nil => by_cases h : b = a <;> simp [h]
  | cons c l ih =>
    by_cases h : b = c
    · subst h
      rw [List.cons_append, List.destutter'_cons_neg _ (by simp), ih,
        List.destutter'_cons_neg _ (by simp)]
    · rw [List.cons_append, List.destutter'_cons_pos _ h, ih c, List.destutter'_cons_pos _ h,
        List.getLast?_cons_of_ne_nil (List.destutter'_ne_nil l _)]
      split_ifs <;> rfl

/-- The last element of a list is dropped if it repeats the one that is kept before it. -/
theorem destutter_concat (l : List α) (a : α) :
    (l ++ [a]).destutter (· ≠ ·) =
      if (l.destutter (· ≠ ·)).getLast? = some a then l.destutter (· ≠ ·)
      else l.destutter (· ≠ ·) ++ [a] := by
  cases l with
  | nil => rfl
  | cons b l => exact destutter'_concat l a b

end Lists

/-! ### The commands -/

/-- The commands that are worth recalling: the texts without the blanks at their ends, but none that
is blank, and of those that repeat each other only the first. -/
def recallable (texts : List Text) : List Text := (Text.solid texts).destutter (· ≠ ·)

@[simp] theorem recallable_nil : recallable [] = [] := rfl

theorem recallable_concat_of_isBlank (texts : List Text) {text : Text}
    (h : Text.isBlank text = true) : recallable (texts ++ [text]) = recallable texts := by
  rw [recallable, Text.solid_append, Text.solid_of_blank (Text.trimEnd_eq_nil.mpr h),
    List.append_nil, recallable]

theorem recallable_concat (texts : List Text) {text : Text} (h : Text.isBlank text = false) :
    recallable (texts ++ [text]) =
      if (recallable texts).getLast? = some (Text.trimEnd text) then recallable texts
      else recallable texts ++ [Text.trimEnd text] := by
  have hne : Text.trimEnd text ≠ [] := fun he => by
    rw [Text.trimEnd_eq_nil.mp he] at h
    cases h
  rw [recallable, Text.solid_append, Text.solid_of_ne hne, destutter_concat, recallable]

theorem isBlank_of_mem_recallable {texts : List Text} {command : Text}
    (h : command ∈ recallable texts) : Text.isBlank command = false := by
  have hsolid : command ∈ Text.solid texts := (List.destutter_sublist _ _).subset h
  simpa using (List.mem_filter.mp hsolid).2

/-! ### The history -/

/-- The history holds the last commands of a list, as many as it has room for. -/
def Recalls (h : History) (commands : List Text) : Prop := h.entries = commands.rtake h.capacity

@[simp] theorem capacity_add (h : History) (text : Text) : (h.add text).capacity = h.capacity := by
  rw [add]
  split_ifs <;> rfl

theorem capacity_foldl_add (h : History) (texts : List Text) :
    (texts.foldl add h).capacity = h.capacity := by
  induction texts generalizing h with
  | nil => rfl
  | cons text texts ih => rw [List.foldl_cons, ih, capacity_add]

theorem add_of_isBlank (h : History) {text : Text} (hb : Text.isBlank text = true) :
    h.add text = h := by
  simp [add, hb]

namespace Recalls

variable {h : History} {commands : List Text} {text : Text}

/-- Where nothing can be kept, nothing is. -/
theorem of_capacity_eq_zero (hc : h.capacity = 0) (he : h.entries = []) (commands : List Text) :
    h.Recalls commands := by
  rw [Recalls, hc, he, List.rtake_zero]

/-- The last entry is the last command, whatever was dropped at the other end. -/
theorem getLast?_entries (hr : h.Recalls commands) (hc : 0 < h.capacity) :
    h.entries.getLast? = commands.getLast? := by
  rw [hr, getLast?_rtake commands hc]

/-- **One more command** is kept, unless it repeats the last one. -/
theorem add (hr : h.Recalls commands) (hb : Text.isBlank text = false) :
    (h.add text).Recalls
      (if commands.getLast? = some (Text.trimEnd text) then commands
        else commands ++ [Text.trimEnd text]) := by
  rcases Nat.eq_zero_or_pos h.capacity with hc | hc
  · have hsame : h.add text = h := by simp [History.add, hc]
    rw [hsame]
    exact of_capacity_eq_zero hc (by rw [hr, hc, List.rtake_zero]) _
  · obtain ⟨n, hn⟩ := Nat.exists_eq_succ_of_ne_zero hc.ne'
    have hroom := rtake_eq_ite commands n
    rw [Recalls, capacity_add, History.add, Text.isBlank_trimEnd, hb, hr.getLast?_entries hc,
      if_neg (by simp [hc.ne'])]
    rw [Recalls, hn] at hr
    rw [← hr] at hroom
    split_ifs with hlast hfull
    · rw [hn, hr]
    · rw [hn, List.rtake_concat_succ, hroom, if_pos (hfull.trans hn)]
    · rw [hn, List.rtake_concat_succ, hroom, if_neg fun he => hfull (he.trans hn.symm)]

/-- Behind any input the history holds the last of the commands that are worth recalling. -/
theorem foldl_add (capacity : Nat) (texts : List Text) :
    (texts.foldl History.add { capacity }).Recalls (recallable texts) := by
  induction texts using List.reverseRecOn with
  | nil => simp [Recalls]
  | append_singleton texts text ih =>
    rw [List.foldl_concat]
    cases hb : Text.isBlank text with
    | true => rwa [add_of_isBlank _ hb, recallable_concat_of_isBlank texts hb]
    | false =>
      rw [recallable_concat texts hb]
      exact ih.add hb

end Recalls

/-- **The history is the end of the list of all commands.** For every capacity and all input: the
entries, oldest first, are the last of the commands that are worth recalling, as many as there is
room for. So there are never more, none is blank and none repeats the one before it. -/
theorem entries_eq_rtake (capacity : Nat) (texts : List Text) :
    let h := texts.foldl add { capacity }
    h.entries = (recallable texts).rtake capacity ∧
      h.entries.length ≤ capacity ∧ (∀ entry ∈ h.entries, Text.isBlank entry = false) ∧
      h.entries.IsChain (· ≠ ·) := by
  intro h
  have hentries : h.entries = (recallable texts).rtake capacity := by
    have hrecalls := Recalls.foldl_add capacity texts
    rwa [Recalls, capacity_foldl_add] at hrecalls
  have hsuffix : h.entries <:+ recallable texts := by
    rw [hentries, List.rtake]
    exact List.drop_suffix _ _
  refine ⟨hentries, ?_, fun entry he => ?_, ?_⟩
  · rw [hentries, List.rtake, List.length_drop]
    omega
  · exact isBlank_of_mem_recallable (hsuffix.subset he)
  · exact (List.isChain_destutter _ (Text.solid texts)).suffix hsuffix

/-- A repetition and blank input are left out, and the oldest command makes room for the last. -/
theorem entries_eq_rtake_evicted :
    let texts := ["a".toList, "a\n".toList, "  ".toList, "b".toList, "a ".toList]
    let h := texts.foldl add { capacity := 2 }
    h.entries = [['b'], ['a']] ∧ recallable texts = [['a'], ['b'], ['a']] ∧ ['b'] ∈ h.entries ∧
      Text.isBlank ['b'] = false := by
  intro texts h
  have hmem : ['b'] ∈ h.entries := by decide
  exact ⟨by decide, by decide, hmem, (entries_eq_rtake 2 texts).2.2.1 ['b'] hmem⟩

end History

end LineFraming
