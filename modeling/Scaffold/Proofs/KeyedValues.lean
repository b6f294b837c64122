import Scaffold.Proofs.CommandStages

/-!
# Maps with every key once

Configuration values are built from the nodes of a text, and a map among them only by putting one
entry after another. An entry whose key is there already replaces the value of the other one. So in
a value that comes from a configuration no map has a key twice, nor has any map among its values.
-/

namespace Scaffold

namespace Value

variable {entries : List (Value × Value)}

def DistinctKeys (entries : List (Value × Value)) : Prop :=
  entries.Pairwise fun a b => a.1.sameKey b.1 = false

/-- Neither the value nor a value under one of its keys, at any depth, is a map with a key twice. -/
inductive Keyed : Value → Prop where
  | map {entries : List (Value × Value)} (distinct : DistinctKeys entries)
      (values : ∀ e ∈ entries, Keyed e.2) : Keyed (.map entries)
  | other {v : Value} (h : ∀ entries, v ≠ .map entries) : Keyed v

theorem Keyed.distinct (h : Keyed (.map entries)) : DistinctKeys entries := by
  cases h with
  | map distinct values => exact distinct
  | other h => exact absurd rfl (h entries)

theorem Keyed.values (h : Keyed (.map entries)) : ∀ e ∈ entries, e.2.Keyed := by
  cases h with
  | map distinct values => exact values
  | other h => exact absurd rfl (h entries)

theorem keyed_empty : Keyed (.map []) :=
  .map .nil (by simp)

theorem keyed_orElse {v w : Value} (hv : v.Keyed) (hw : w.Keyed) : (v.orElse w).Keyed := by
  by_cases h : v.isTruthy = true
  · simpa [orElse, h] using hv
  · simpa [orElse, h] using hw

/-! ### Putting entries into a map -/

theorem distinctKeys_put (h : DistinctKeys entries) (key value : Value) :
    DistinctKeys (put entries key value) := by
  by_cases present : entries.any (·.1.sameKey key) = true
  · -- the keys stay as they are
    have kept : ∀ e : Value × Value, (if e.1.sameKey key then (e.1, value) else e).1 = e.1 := by
      intro e
      by_cases he : e.1.sameKey key = true <;> simp [he]
    rw [put, if_pos present, DistinctKeys, List.pairwise_map]
    simp only [kept]
    exact h
  · rw [put, if_neg present, DistinctKeys, List.pairwise_append]
    refine ⟨h, List.pairwise_singleton _ _, ?_⟩
    intro a ha b hb
    simp only [List.any_eq_true, not_exists, not_and, Bool.not_eq_true] at present
    rw [List.mem_singleton.mp hb]
    exact present a ha

theorem forall_mem_put {P : Value → Prop} (h : ∀ e ∈ entries, P e.2) (key : Value) {value : Value}
    (hv : P value) : ∀ e ∈ put entries key value, P e.2 := by
  intro e he
  by_cases present : entries.any (·.1.sameKey key) = true
  · rw [put, if_pos present, List.mem_map] at he
    obtain ⟨old, ho, rfl⟩ := he
    by_cases same : old.1.sameKey key = true
    · simpa [same] using hv
    · simpa [same] using h old ho
  · rw [put, if_neg present, List.mem_append, List.mem_singleton] at he
    rcases he with he | rfl
    · exact h e he
    · exact hv

theorem keyed_foldl_put (h : ∀ e ∈ entries, e.2.Keyed) {acc : List (Value × Value)}
    (hd : DistinctKeys acc) (ha : ∀ e ∈ acc, e.2.Keyed) :
    Keyed (.map (entries.foldl (fun acc e => put acc e.1 e.2) acc)) := by
  induction entries generalizing acc with
  | nil => exact .map hd ha
  | cons e entries ih =>
    have value := h e List.mem_cons_self
    apply ih
    · intro other ho
      exact h other (List.mem_cons_of_mem e ho)
    · exact distinctKeys_put hd e.1 e.2
    · exact forall_mem_put ha e.1 value

theorem keyed_ofEntries (h : ∀ e ∈ entries, e.2.Keyed) : (ofEntries entries).Keyed :=
  keyed_foldl_put h .nil (by simp)

end Value

/-! ### Values of nodes -/

namespace Yaml

theorem bind_eq_ok {ε α β : Type} {x : Except ε α} {f : α → Except ε β} {b : β}
    (h : (x >>= f) = .ok b) : ∃ a, x = .ok a ∧ f a = .ok b := by
  cases x with
  | error e => cases h
  | ok a => exact ⟨a, rfl, h⟩

theorem mem_of_mapM {ε α β : Type} {f : α → Except ε β} {xs : List α} {ys : List β}
    (h : xs.mapM f = .ok ys) {y : β} (hy : y ∈ ys) : ∃ x ∈ xs, f x = .ok y := by
  induction xs generalizing ys with
  | nil =>
    cases h
    cases hy
  | cons x xs ih =>
    rw [List.mapM_cons] at h
    obtain ⟨first, hf, h⟩ := bind_eq_ok h
    obtain ⟨rest, hr, h⟩ := bind_eq_ok h
    cases h
    rcases List.mem_cons.mp hy with rfl | hy
    · exact ⟨x, List.mem_cons_self, hf⟩
    · obtain ⟨other, ho, hy⟩ := ih hr hy
      exact ⟨other, List.mem_cons_of_mem x ho, hy⟩

theorem keyed_of_map {ε α : Type} {x : Except ε α} {f : α → Value}
    (hf : ∀ a entries, f a ≠ .map entries) {v : Value} (h : x.map f = .ok v) : v.Keyed := by
  cases x with
  | error e => cases h
  | ok a =>
    cases h
    exact .other (hf a)

theorem mapError_eq_ok {ε ε' α : Type} {x : Except ε α} {f : ε → ε'} {a : α}
    (h : x.mapError f = .ok a) : x = .ok a := by
  cases x with
  | error e => cases h
  | ok b => exact congrArg Except.ok (Except.ok.inj h)

theorem timestampValue_keyed {text : String} {v : Value} (h : timestampValue text = .ok v) :
    v.Keyed := by
  rw [timestampValue] at h
  split at h
  · exact keyed_of_map (by simp) (mapError_eq_ok h)
  · exact keyed_of_map (by simp) (mapError_eq_ok h)
  · cases h

theorem binaryValue_keyed {text : String} {v : Value} (h : binaryValue text = .ok v) : v.Keyed := by
  rw [binaryValue] at h
  split at h
  · cases h
  · split at h
    · cases h
      exact .other (by simp)
    · cases h

theorem scalarValue?_keyed {tag text : String} {v : Value}
    (h : scalarValue? tag text = some (.ok v)) : v.Keyed := by
  rw [scalarValue?] at h
  split at h
  · cases h
    exact .other (by simp)
  split at h
  · exact keyed_of_map (by simp) (Option.some.inj h)
  split at h
  · exact keyed_of_map (by simp) (Option.some.inj h)
  split at h
  · exact keyed_of_map (by simp) (Option.some.inj h)
  split at h
  · cases h
    exact .other (by simp)
  split at h
  · exact timestampValue_keyed (Option.some.inj h)
  split at h
  · exact binaryValue_keyed (Option.some.inj h)
  · cases h

theorem getD_scalarValue?_keyed {tag text : String} {v : Value}
    (h : (scalarValue? tag text).getD (.error .malformed) = .ok v) : v.Keyed := by
  cases hs : scalarValue? tag text with
  | none =>
    rw [hs] at h
    cases h
  | some result =>
    rw [hs, Option.getD_some] at h
    exact scalarValue?_keyed (h ▸ hs)

theorem build_keyed {fuel : Nat} {n : Node} {v : Value} (h : n.build fuel = .ok v) : v.Keyed := by
  induction fuel generalizing n v with
  | zero => cases h
  | succ fuel ih =>
    unfold Node.build at h
    dsimp only at h
    split at h
    · obtain ⟨items, -, h⟩ := bind_eq_ok h
      cases h
      exact .other (by simp)
    · obtain ⟨es, -, h⟩ := bind_eq_ok h
      obtain ⟨pairs, -, h⟩ := bind_eq_ok h
      cases h
      exact .other (by simp)
    · -- the entries of a map have the values of nodes
      obtain ⟨es, -, h⟩ := bind_eq_ok h
      obtain ⟨pairs, hp, h⟩ := bind_eq_ok h
      cases h
      apply Value.keyed_ofEntries
      intro e he
      obtain ⟨node, -, hn⟩ := mem_of_mapM hp he
      obtain ⟨key, -, hn⟩ := bind_eq_ok hn
      obtain ⟨value, hv, hn⟩ := bind_eq_ok hn
      cases hn
      exact ih hv
    · obtain ⟨es, -, h⟩ := bind_eq_ok h
      obtain ⟨pairs, -, h⟩ := bind_eq_ok h
      cases h
      exact .other (by simp [Value.ofItems])
    · split at h
      · cases h
      · exact getD_scalarValue?_keyed h
    · cases h

theorem load_keyed {text : String} {v : Value} (h : load text = .ok v) : v.Keyed := by
  rw [load] at h
  obtain ⟨document, -, h⟩ := bind_eq_ok h
  cases document with
  | none =>
    cases h
    exact .other (by simp)
  | some n =>
    obtain ⟨_, -, h⟩ := bind_eq_ok h
    obtain ⟨_, -, h⟩ := bind_eq_ok h
    exact build_keyed h

end Yaml

/-! ### Values of configurations -/

namespace Script

variable {α β : Type} {P : α → Prop} {Q : β → Prop}

/-- Every result of the script has the property. -/
def Yields (P : α → Prop) (s : Script α) : Prop :=
  ∀ w a, (s.run w).1 = .ok a → P a

theorem Yields.pure {a : α} (h : P a) : (pure a : Script α).Yields P := by
  intro w b hb
  cases hb
  exact h

theorem Yields.fail (e : Failure) : (fail e : Script α).Yields P := by
  intro w a ha
  cases ha

theorem Yields.bind {s : Script α} {f : α → Script β} (hs : s.Yields P)
    (hf : ∀ a, P a → (f a).Yields Q) : (s >>= f).Yields Q := by
  intro w b hb
  obtain ⟨a, v, ha, hb⟩ := run_bind_eq_ok (u := ((s >>= f).run w).2) (Prod.ext hb rfl)
  exact hf a (hs w a (by rw [ha])) v b (by rw [hb])

theorem yields_true (s : Script α) : s.Yields fun _ => True :=
  fun _ _ _ => trivial

end Script

namespace Configuration

open Script

theorem valueOf_yields (p : Path) (contents : Bytes) : (valueOf p contents).Yields Value.Keyed := by
  refine (yields_true _).bind fun text _ => ?_
  split
  · rename_i v hv
    exact .pure (Value.keyed_orElse (Yaml.load_keyed hv) Value.keyed_empty)
  · exact .fail _
  · exact .fail _

theorem read_yields (p : Path) : (read p).Yields Value.Keyed := by
  refine (yields_true _).bind fun there _ => ?_
  split
  · refine (yields_true _).bind fun result _ => ?_
    split
    · exact valueOf_yields p _
    · exact .fail _
  · exact .pure Value.keyed_empty

theorem find_yields (source : Path) : (find source).Yields Value.Keyed := by
  refine (read_yields fileName).bind fun here hh => ?_
  split
  · exact .pure hh
  · refine (yields_true _).bind fun p _ => (yields_true _).bind fun root _ => ?_
    split
    · exact read_yields _
    · exact .pure hh

theorem value_yields (source : Path) (file : Option Path) :
    (value source file).Yields Value.Keyed := by
  cases file with
  | none => exact find_yields source
  | some p => exact read_yields p

end Configuration

end Scaffold
