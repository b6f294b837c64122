import Scaffold.Proofs.SettingSources

/-!
# Keys that mean nothing

A key that is neither a setting nor the name of a language has no influence on the settings. But all
such keys are sorted to be listed in a notice, and keys of different classes have no order. So a
configuration value comes to settings exactly when every two of its unknown keys can be compared,
and more unknown keys change nothing as long as that is so. The unknown keys of a section are not
listed, and there any keys may be added.
-/

namespace Scaffold

namespace Value

/-- One of the two keys comes first, or they are equal. -/
def Comparable (a b : Value) : Prop :=
  a.orderClass = b.orderClass ∧ a.orderClass ≠ .none

theorem pairwise_comparable_iff (v : Value) (others : List Value) (hne : others ≠ []) :
    (v :: others).Pairwise Comparable ↔
      v.orderClass ≠ .none ∧ ∀ k ∈ v :: others, k.orderClass = v.orderClass := by
  constructor
  · intro h
    have first := (List.pairwise_cons.mp h).1
    obtain ⟨w, rest, hw⟩ := List.exists_cons_of_ne_nil hne
    refine ⟨(first w (by simp [hw])).2, ?_⟩
    intro k hk
    rcases List.mem_cons.mp hk with rfl | hk
    · rfl
    · exact (first k hk).1.symm
  · intro ⟨hv, same⟩
    apply List.pairwise_of_forall_mem_list
    intro a ha b hb
    exact ⟨(same a ha).trans (same b hb).symm, fun hn => hv ((same a ha).symm.trans hn)⟩

theorem sort_eq_ok_iff (keys : List Value) :
    (∃ sorted, sort keys = .ok sorted) ↔ keys.Pairwise Comparable := by
  match keys with
  | [] => simp [sort]
  | [v] => simp [sort]
  | v :: w :: rest =>
    rw [pairwise_comparable_iff v (w :: rest) (by simp)]
    by_cases same : v.orderClass ≠ .none ∧ ∀ k ∈ v :: w :: rest, k.orderClass = v.orderClass
    · have test : (v.orderClass != .none &&
          ((v :: w :: rest).map orderClass).all (· == v.orderClass)) = true := by
        simpa using same
      apply iff_of_true _ same
      simp only [sort, test, if_true]
      exact ⟨_, rfl⟩
    · have test : (v.orderClass != .none &&
          ((v :: w :: rest).map orderClass).all (· == v.orderClass)) = false := by
        rw [Bool.eq_false_iff]
        intro h
        exact same (by simpa using h)
      apply iff_of_false _ same
      intro ⟨sorted, hs⟩
      simp only [sort, test, Bool.false_eq_true, if_false] at hs
      split at hs
      · split at hs <;> cases hs
      · cases hs

end Value

namespace Settings

open Value (Comparable)

variable {entries more : List (Value × Value)} {language : Language}

/-- The key is not that of a setting. -/
def Idle (k : Value) : Prop :=
  ∀ f : Setting, k ≠ .text f.key

/-- The key is neither that of a setting nor the name of a language. -/
def Strange (k : Value) : Prop :=
  Idle k ∧ ∀ l : Language, k ≠ .text l.name

theorem ofKey?_of_idle {k : Value} (h : Idle k) : Setting.ofKey? k = none := by
  cases hk : Setting.ofKey? k with
  | none => rfl
  | some f => exact absurd ((Setting.ofKey?_eq_some_iff k f).mp hk) (h f)

theorem sameKey_name_of_strange {k : Value} (h : Strange k) (l : Language) :
    k.sameKey (.text l.name) = false := by
  rw [Bool.eq_false_iff]
  intro hs
  exact h.2 l ((Value.sameKey_text_iff k l.name).mp hs)

/-- Of a configuration that is a map, every two strange keys can be compared. -/
def Orderly (raw : Value) : Prop :=
  ∀ entries, raw = .map entries →
    entries.Pairwise fun a b => Strange a.1 → Strange b.1 → Comparable a.1 b.1

theorem strange_iff (k : Value) :
    ((Setting.ofKey? k).isNone && !(Language.all.any fun l => k.sameKey (.text l.name))) = true ↔
      Strange k := by
  constructor
  · intro h
    rw [Bool.and_eq_true, Option.isNone_iff_eq_none, Bool.not_eq_true', List.any_eq_false] at h
    refine ⟨?_, ?_⟩
    · intro f hf
      rw [(Setting.ofKey?_eq_some_iff k f).mpr hf] at h
      cases h.1
    · intro l hl
      have listed : l ∈ Language.all := by cases l <;> simp [Language.all]
      exact h.2 l listed ((Value.sameKey_text_iff k l.name).mpr hl)
  · intro h
    simp [ofKey?_of_idle h.1, sameKey_name_of_strange h]

theorem orderly_map_iff (entries : List (Value × Value)) :
    Orderly (.map entries) ↔ (unknownKeys entries).Pairwise Comparable := by
  rw [unknownKeys, List.pairwise_filter, List.pairwise_map]
  simp only [strange_iff]
  constructor
  · intro h
    exact h entries rfl
  · intro h other ho
    cases ho
    exact h

theorem interpret_eq_ok_iff (raw : Value) (language : Language) (settings : Settings) :
    (interpret raw language).2 = .ok settings ↔ Orderly raw ∧ settings = blend raw language := by
  have orderly : Orderly raw ↔ ∃ sorted, Value.sort (unknownKeys (entriesOf raw).2) = .ok sorted := by
    rw [Value.sort_eq_ok_iff]
    cases raw with
    | map entries => exact orderly_map_iff entries
    | _ => simp [Orderly, entriesOf, unknownKeys]
  rw [orderly, interpret_snd]
  cases Value.sort (unknownKeys (entriesOf raw).2) with
  | error e => simp [Except.map]
  | ok sorted => simp [Except.map, eq_comm]

/-! ### More unknown keys -/

/-- The second list is the first one with entries put in anywhere, under keys that are `new`. -/
inductive Padded (new : Value → Prop) :
    List (Value × Value) → List (Value × Value) → Prop where
  | nil : Padded new [] []
  | keep {entries more : List (Value × Value)} (e : Value × Value) (h : Padded new entries more) :
      Padded new (e :: entries) (e :: more)
  | add {entries more : List (Value × Value)} {e : Value × Value} (hn : new e.1)
      (h : Padded new entries more) : Padded new entries (e :: more)

theorem Padded.sublist {new : Value → Prop} (h : Padded new entries more) :
    entries.Sublist more := by
  induction h with
  | nil => exact .slnil
  | keep e h ih => exact .cons_cons e ih
  | add hn h ih => exact .cons _ ih

theorem Padded.orderly (h : Padded Strange entries more) (ho : Orderly (.map more)) :
    Orderly (.map entries) := by
  intro other he
  cases he
  exact (ho more rfl).sublist h.sublist

theorem Padded.overlay {new : Value → Prop} (h : Padded new entries more)
    (idle : ∀ k, new k → Idle k) (s : Settings) : s.overlay more = s.overlay entries := by
  induction h generalizing s with
  | nil => rfl
  | keep e h ih =>
    cases hk : Setting.ofKey? e.1 with
    | none => rw [overlay_cons_of_none hk, overlay_cons_of_none hk, ih]
    | some k => rw [overlay_cons_of_some hk, overlay_cons_of_some hk, ih]
  | add hn h ih => rw [overlay_cons_of_none (ofKey?_of_idle (idle _ hn)), ih]

theorem Padded.lookup (h : Padded Strange entries more) (l : Language) :
    Value.lookup more (.text l.name) = Value.lookup entries (.text l.name) := by
  simp only [Value.lookup]
  congr 1
  induction h with
  | nil => rfl
  | keep e h ih => simp only [List.find?_cons, ih]
  | add hs h ih => simp only [List.find?_cons, sameKey_name_of_strange hs, ih]

theorem Padded.blend (h : Padded Strange entries more) (language : Language) :
    Settings.blend (.map more) language = Settings.blend (.map entries) language := by
  have top := h.overlay (fun _ strange => strange.1)
  simp only [Settings.blend, entriesOf, sectionOf, top, h.lookup]

theorem Padded.interpret_iff (h : Padded Strange entries more) (language : Language)
    (settings : Settings) :
    (interpret (.map more) language).2 = .ok settings ↔
      (interpret (.map entries) language).2 = .ok settings ∧ Orderly (.map more) := by
  rw [interpret_eq_ok_iff, interpret_eq_ok_iff, h.blend]
  constructor
  · intro ⟨ho, hs⟩
    exact ⟨⟨h.orderly ho, hs⟩, ho⟩
  · intro ⟨⟨_, hs⟩, ho⟩
    exact ⟨ho, hs⟩

/-! ### More keys in a section -/

theorem sectionOf_of_lookup {part : List (Value × Value)}
    (h : Value.lookup entries (.text language.name) = some (.map part)) :
    (sectionOf entries language).2 = part := by
  cases part <;> simp [sectionOf, h, Value.isTruthy]

variable {part part' : List (Value × Value)}

theorem Padded.sectionOf_overlay (h : Padded Idle part part') (before after : List (Value × Value))
    (l language : Language) (s : Settings) :
    s.overlay (sectionOf (before ++ (.text l.name, .map part') :: after) language).2 =
      s.overlay (sectionOf (before ++ (.text l.name, .map part) :: after) language).2 := by
  cases hb : before.find? fun e => e.1.sameKey (.text language.name) with
  | some e => simp [sectionOf, Value.lookup, List.find?_append, hb]
  | none =>
    cases hl : (Value.text l.name).sameKey (.text language.name) with
    | false => simp [sectionOf, Value.lookup, List.find?_append, hb, hl]
    | true =>
      have found (inner : List (Value × Value)) : Value.lookup
          (before ++ (.text l.name, .map inner) :: after) (.text language.name) =
            some (.map inner) := by
        simp [Value.lookup, List.find?_append, hb, hl]
      rw [sectionOf_of_lookup (found part'), sectionOf_of_lookup (found part)]
      exact h.overlay (fun _ idle => idle) s

theorem Padded.interpret_section (h : Padded Idle part part') (before after : List (Value × Value))
    (l language : Language) :
    (interpret (.map (before ++ (.text l.name, .map part') :: after)) language).2 =
      (interpret (.map (before ++ (.text l.name, .map part) :: after)) language).2 := by
  have idle : Setting.ofKey? (.text l.name) = none := by cases l <;> rfl
  have top (inner : List (Value × Value)) (s : Settings) :
      s.overlay (before ++ (.text l.name, .map inner) :: after) = s.overlay (before ++ after) := by
    simp [Settings.overlay, idle]
  have keys : unknownKeys (before ++ (.text l.name, .map part') :: after) =
      unknownKeys (before ++ (.text l.name, .map part) :: after) := by
    simp [unknownKeys]
  rw [interpret_snd, interpret_snd]
  simp only [Settings.blend, entriesOf, top, keys, h.sectionOf_overlay]

end Settings

namespace Configuration

open Script Settings

variable {source : Path} {file : Option Path} {w : World} {raw : Value}

theorem load_eq_ok_iff (hv : ((value source file).run w).1 = .ok raw) (language : Language)
    (settings : Settings) :
    ((load source language file).run w).1 = .ok settings ↔
      (interpret raw language).2 = .ok settings := by
  rw [fst_run_load, hv]
  constructor
  · exact Yaml.mapError_eq_ok
  · intro h
    simp only [Except.bind, h]
    rfl

theorem load_eq_error_iff (hv : ((value source file).run w).1 = .ok raw) (language : Language) :
    (∃ f, ((load source language file).run w).1 = .error (.unorderable f)) ↔ ¬Orderly raw := by
  rw [fst_run_load, hv]
  simp only [Except.bind]
  cases hi : (interpret raw language).2 with
  | ok settings =>
    have ho := ((interpret_eq_ok_iff raw language settings).mp hi).1
    apply iff_of_false
    · intro ⟨f, hf⟩
      cases hf
    · exact fun hn => hn ho
  | error f =>
    apply iff_of_true
    · exact ⟨f, rfl⟩
    · intro ho
      rw [(interpret_eq_ok_iff raw language _).mpr ⟨ho, rfl⟩] at hi
      cases hi

/-- A configuration that has been read comes to settings exactly when every two of its unknown keys
can be compared; else the loading fails for want of an order. Where unknown keys are put in, the
settings are the same as before, provided that every two of them can still be compared. Unknown keys
put into a section change nothing at all. -/
theorem unknown_keys_are_harmless_if_comparable (language : Language) :
    (∀ (source : Path) (file : Option Path) (w : World) (raw : Value),
      ((value source file).run w).1 = .ok raw →
      ((∃ settings, ((load source language file).run w).1 = .ok settings) ↔ Orderly raw) ∧
      ((∃ f, ((load source language file).run w).1 = .error (.unorderable f)) ↔ ¬Orderly raw)) ∧
    ∀ (source source' : Path) (file file' : Option Path) (w w' : World),
      (∀ entries more : List (Value × Value),
        ((value source file).run w).1 = .ok (.map entries) →
        ((value source' file').run w').1 = .ok (.map more) → Padded Strange entries more →
        ∀ settings, ((load source' language file').run w').1 = .ok settings ↔
          ((load source language file).run w).1 = .ok settings ∧ Orderly (.map more)) ∧
      ∀ (before after part part' : List (Value × Value)) (l : Language),
        ((value source file).run w).1 = .ok (.map (before ++ (.text l.name, .map part) :: after)) →
        ((value source' file').run w').1 =
          .ok (.map (before ++ (.text l.name, .map part') :: after)) → Padded Idle part part' →
        ((load source' language file').run w').1 = ((load source language file).run w).1 := by
  constructor
  · intro source file w raw hv
    refine ⟨?_, load_eq_error_iff hv language⟩
    simp only [load_eq_ok_iff hv, interpret_eq_ok_iff]
    constructor
    · intro ⟨settings, ho, _⟩
      exact ho
    · intro ho
      exact ⟨_, ho, rfl⟩
  · intro source source' file file' w w'
    constructor
    · intro entries more hv hv' padded settings
      rw [load_eq_ok_iff hv, load_eq_ok_iff hv']
      exact padded.interpret_iff language settings
    · intro before after part part' l hv hv' padded
      rw [fst_run_load, fst_run_load, hv, hv']
      simp only [Except.bind, padded.interpret_section]

/-- A project with this configuration at its top. -/
def projectWith (text : String) : World where
  disk := ⟨[(["proj"], .folder), (["proj", "config.yaml"], .file (Text.Utf8.encode text))]⟩
  workingFolder := ⟨.single, ["proj"]⟩

/-- Whether two values are the same, where they are texts, whole numbers, truth values or maps of
such, down to a depth. -/
def agrees : Nat → Value → Value → Bool
  | _, .text s, .text t => s == t
  | _, .int m, .int n => m == n
  | _, .bool a, .bool b => a == b
  | depth + 1, .map es, .map fs =>
    es.isEqv fs fun e f => agrees depth e.1 f.1 && agrees depth e.2 f.2
  | _, _, _ => false

theorem eq_of_agrees {depth : Nat} {v v' : Value} (h : agrees depth v v' = true) : v = v' := by
  fun_induction agrees depth v v' with
  | case1 => simpa using h
  | case2 => simpa using h
  | case3 => simpa using h
  | case4 depth es fs keys values =>
    congr 1
    induction es generalizing fs with
    | nil => cases fs <;> simp_all
    | cons e es ih =>
      cases fs with
      | nil => simp at h
      | cons f fs =>
        simp only [List.isEqv, Bool.and_eq_true] at h
        rw [ih fs h.2, Prod.ext (keys e f h.1.1) (values e f h.1.2)]
  | case5 => cases h

theorem value_of_agrees
    (h : ((value source file).run w).1.toOption.any (agrees 2 raw) = true) :
    ((value source file).run w).1 = .ok raw := by
  cases hv : ((value source file).run w).1 with
  | error e =>
    rw [hv] at h
    cases h
  | ok read =>
    rw [hv] at h
    rw [eq_of_agrees h]

theorem value_bare :
    ((value (.ofString "m.ts") none).run (projectWith "typescript:\n  suffix: t\n")).1 =
      .ok (.map [(.text "typescript", .map [(.text "suffix", .text "t")])]) :=
  value_of_agrees (by decide +kernel)

theorem value_numbered :
    ((value (.ofString "m.ts") none).run
      (projectWith "1: x\ntypescript:\n  suffix: t\noff: y\n")).1 =
      .ok (.map [(.int 1, .text "x"), (.text "typescript", .map [(.text "suffix", .text "t")]),
        (.bool false, .text "y")]) :=
  value_of_agrees (by decide +kernel)

theorem value_mixed :
    ((value (.ofString "m.ts") none).run
      (projectWith "typescript:\n  1: x\n  suffix: t\n  b: y\n")).1 =
      .ok (.map [(.text "typescript",
        .map [(.int 1, .text "x"), (.text "suffix", .text "t"), (.text "b", .text "y")])]) :=
  value_of_agrees (by decide +kernel)

/-- A truth value is compared as a number, so the two keys added at the top have an order. Those
added to the section have none. -/
theorem extra_keys_ignored :
    (∃ settings, ((load (.ofString "m.ts") .typescript none).run
        (projectWith "1: x\ntypescript:\n  suffix: t\noff: y\n")).1 = .ok settings ∧
      ((load (.ofString "m.ts") .typescript none).run
        (projectWith "typescript:\n  suffix: t\n")).1 = .ok settings) ∧
    ((load (.ofString "m.ts") .typescript none).run
        (projectWith "typescript:\n  1: x\n  suffix: t\n  b: y\n")).1 =
      ((load (.ofString "m.ts") .typescript none).run
        (projectWith "typescript:\n  suffix: t\n")).1 := by
  obtain ⟨returns, same⟩ := unknown_keys_are_harmless_if_comparable .typescript
  have orderly : Orderly (.map [(.int 1, .text "x"),
      (.text "typescript", .map [(.text "suffix", .text "t")]), (.bool false, .text "y")]) := by
    intro entries he
    cases he
    have known : ¬Strange (.text "typescript") := fun h => h.2 .typescript rfl
    simp [Value.Comparable, Value.orderClass, known]
  have padded : Padded Strange [(.text "typescript", .map [(.text "suffix", .text "t")])]
      [(.int 1, .text "x"), (.text "typescript", .map [(.text "suffix", .text "t")]),
        (.bool false, .text "y")] :=
    .add ⟨by simp [Idle], by simp⟩ (.keep _ (.add ⟨by simp [Idle], by simp⟩ .nil))
  have inner : Padded Idle [(.text "suffix", .text "t")]
      [(.int 1, .text "x"), (.text "suffix", .text "t"), (.text "b", .text "y")] := by
    refine .add (by simp [Idle]) (.keep _ (.add ?_ .nil))
    intro f
    cases f <;> simp [Setting.key]
  constructor
  · obtain ⟨settings, hs⟩ := (returns _ _ _ _ value_numbered).1.mpr orderly
    refine ⟨settings, hs, ?_⟩
    exact (((same _ _ _ _ _ _).1 _ _ value_bare value_numbered padded settings).mp hs).1
  · exact (same _ _ _ _ _ _).2 [] [] _ _ .typescript value_bare value_mixed inner

theorem exists_of_isOk {ε α : Type} {result : Except ε α} (h : result.isOk = true) :
    ∃ a, result = .ok a := by
  cases result with
  | ok a => exact ⟨a, rfl⟩
  | error e => cases h

/-- The value is read, but the loading fails, since a number and a text have no order. Without the
last key it returns. -/
theorem mixed_keys_stop_loading :
    (∃ raw, ((value (.ofString "m.ts") none).run
      (projectWith "suffix: t\n1: x\nb: y\n")).1 = .ok raw) ∧
    ((load (.ofString "m.ts") .typescript none).run
      (projectWith "suffix: t\n1: x\nb: y\n")).1 = .error (.unorderable .types) ∧
    ∃ settings, ((load (.ofString "m.ts") .typescript none).run
      (projectWith "suffix: t\n1: x\n")).1 = .ok settings := by
  have reads : ((value (.ofString "m.ts") none).run
      (projectWith "suffix: t\n1: x\nb: y\n")).1.isOk = true := by decide +kernel
  have fails : (match ((load (.ofString "m.ts") .typescript none).run
      (projectWith "suffix: t\n1: x\nb: y\n")).1 with
    | .error e => decide (e = .unorderable .types)
    | .ok _ => false) = true := by decide +kernel
  have loads : ((load (.ofString "m.ts") .typescript none).run
      (projectWith "suffix: t\n1: x\n")).1.isOk = true := by decide +kernel
  refine ⟨exists_of_isOk reads, ?_, exists_of_isOk loads⟩
  split at fails
  · rename_i hv
    rw [hv, of_decide_eq_true fails]
  · cases fails

end Configuration

end Scaffold
