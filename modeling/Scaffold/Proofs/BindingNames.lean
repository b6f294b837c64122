import Scaffold.Identifier

/-!
# Characters of binding names

A binding name is put together from runs of allowed characters, some of them capitalized, with
underscores in front of them where they are needed. No other character gets into it.
-/

namespace Scaffold.Identifier

theorem isAllowed_of_mem_runs {cs run : List Char} (hr : run ∈ runs cs) {c : Char} (hc : c ∈ run) :
    isAllowed c = true := by
  induction cs generalizing run with
  | nil => simp [runs] at hr
  | cons d cs ih =>
    by_cases hd : isAllowed d = true
    · -- either `d` continues the first run of `cs`, or it is a run by itself
      have shape : (∃ r rs, runs cs = r :: rs ∧ runs (d :: cs) = (d :: r) :: rs) ∨
          runs (d :: cs) = [d] :: runs cs := by
        rw [runs, if_pos hd]
        split
        · exact Or.inl ⟨_, _, ‹_›, rfl⟩
        · exact Or.inr rfl
      rcases shape with ⟨r, rs, hruns, hcons⟩ | hcons
      · rw [hcons] at hr
        rw [hruns] at ih
        rcases List.mem_cons.mp hr with rfl | hr
        · rcases List.mem_cons.mp hc with rfl | hc
          · exact hd
          · exact ih List.mem_cons_self hc
        · exact ih (List.mem_cons_of_mem r hr) hc
      · rw [hcons] at hr
        rcases List.mem_cons.mp hr with rfl | hr
        · rw [List.mem_singleton.mp hc]
          exact hd
        · exact ih hr hc
    · rw [runs, if_neg hd] at hr
      exact ih hr hc

theorem isAllowed_toUpper {c : Char} (h : isAllowed c = true) : isAllowed c.toUpper = true := by
  by_cases hl : 'a'.val ≤ c.val ∧ c.val ≤ 'z'.val
  · have moved : c.toUpper = ⟨c.val + ('A'.val - 'a'.val), _⟩ := dif_pos hl
    have range : 'A'.val ≤ c.val + ('A'.val - 'a'.val) ∧ c.val + ('A'.val - 'a'.val) ≤ 'Z'.val := by
      grind
    have upper : c.toUpper.isUpper = true := by
      rw [moved]
      exact decide_eq_true range
    have letter : isAllowed c.toUpper = (c.toUpper.isUpper || c.toUpper.isLower ||
        c.toUpper.isDigit || c.toUpper == '_' || c.toUpper == '$') := rfl
    simp [letter, upper]
  · have kept : c.toUpper = c := dif_neg hl
    rw [kept, h]

theorem isAllowed_of_mem_capitalize {run : List Char} (h : ∀ c ∈ run, isAllowed c = true) {c : Char}
    (hc : c ∈ capitalize run) : isAllowed c = true := by
  cases run with
  | nil => simp [capitalize] at hc
  | cons d run =>
    rcases List.mem_cons.mp hc with rfl | hc
    · exact isAllowed_toUpper (h d List.mem_cons_self)
    · exact h c (List.mem_cons_of_mem d hc)

theorem mem_guarded {cs : List Char} {c : Char} (h : c ∈ guarded cs) : c = '_' ∨ c ∈ cs := by
  unfold guarded at h
  dsimp only at h
  split at h <;> split at h <;> simp_all

theorem isAllowed_of_mem_chars {name : List Char} {c : Char} (h : c ∈ chars name) :
    isAllowed c = true := by
  unfold chars at h
  split at h
  · have subject : "subject".toList.all isAllowed = true := by decide
    exact List.all_eq_true.mp subject c h
  · rename_i first others hruns
    have run {r : List Char} (hr : r ∈ runs name) : ∀ c ∈ r, isAllowed c = true :=
      fun _ => isAllowed_of_mem_runs hr
    rw [hruns] at run
    rcases mem_guarded h with rfl | h
    · decide
    rcases List.mem_append.mp h with h | h
    · exact run List.mem_cons_self c h
    · obtain ⟨capitalized, hm, hc⟩ := List.mem_flatten.mp h
      obtain ⟨r, hr, rfl⟩ := List.mem_map.mp hm
      exact isAllowed_of_mem_capitalize (run (List.mem_cons_of_mem first hr)) hc

theorem not_mem_ofName {c : Char} (h : isAllowed c = false) (name : String) :
    c ∉ (ofName name).toList := by
  intro hc
  rw [ofName, String.toList_ofList] at hc
  simp [isAllowed_of_mem_chars hc] at h

end Scaffold.Identifier
