import Scaffold.Proofs.KeyedValues
import Scaffold.Proofs.PrintedRuns

/-!
# Where settings come from

Each setting comes from the section of the language, else from the top level, else it has its
default. Only the presence of a key decides: a value that is null, false or of an unexpected type
counts like any other, and a section that is no map holds nothing. So two configurations that agree
on these places come to the same settings, whatever else they hold.
-/

namespace Scaffold

namespace Value

variable {entries : List (Value × Value)}

/-- The value is a map that has `x` under the key. -/
def Has (v : Value) (key : String) (x : Value) : Prop :=
  ∃ entries, v = .map entries ∧ (.text key, x) ∈ entries

theorem sameKey_text_iff (v : Value) (key : String) :
    v.sameKey (.text key) = true ↔ v = .text key := by
  cases v <;> simp [sameKey, scaled?]

theorem DistinctKeys.unique (h : DistinctKeys entries) {key : String} {x y : Value}
    (hx : (.text key, x) ∈ entries) (hy : (.text key, y) ∈ entries) : x = y := by
  induction entries with
  | nil => cases hx
  | cons e entries ih =>
    obtain ⟨apart, rest⟩ := List.pairwise_cons.mp h
    have self : (Value.text key).sameKey (.text key) = true := (sameKey_text_iff _ _).mpr rfl
    rcases List.mem_cons.mp hx with hx | hx
    · rcases List.mem_cons.mp hy with hy | hy
      · exact congrArg Prod.snd (hx.trans hy.symm)
      · have differ := apart _ hy
        simp [← hx, self] at differ
    · rcases List.mem_cons.mp hy with hy | hy
      · have differ := apart _ hx
        simp [← hy, self] at differ
      · exact ih rest hx hy

theorem Has.unique {v : Value} (hk : v.Keyed) {key : String} {x y : Value} (hx : v.Has key x)
    (hy : v.Has key y) : x = y := by
  obtain ⟨entries, rfl, hx⟩ := hx
  obtain ⟨_, he, hy⟩ := hy
  cases he
  exact hk.distinct.unique hx hy

theorem Has.keyed {v : Value} (hk : v.Keyed) {key : String} {x : Value} (hx : v.Has key x) :
    x.Keyed := by
  obtain ⟨entries, rfl, hx⟩ := hx
  exact hk.values _ hx

theorem lookup_eq_some_iff (h : DistinctKeys entries) {key : String} {x : Value} :
    lookup entries (.text key) = some x ↔ (.text key, x) ∈ entries := by
  have found {y : Value} (hy : lookup entries (.text key) = some y) : (.text key, y) ∈ entries := by
    obtain ⟨e, he, rfl⟩ := Option.map_eq_some_iff.mp hy
    have same := List.find?_some he
    rw [← (sameKey_text_iff e.1 key).mp same]
    exact List.mem_of_find?_eq_some he
  constructor
  · exact found
  · intro hx
    cases hl : lookup entries (.text key) with
    | some y => rw [h.unique (found hl) hx]
    | none =>
      rw [lookup, Option.map_eq_none_iff, List.find?_eq_none] at hl
      exact absurd ((sameKey_text_iff _ _).mpr rfl) (hl _ hx)

end Value

/-! ### Settings put over others -/

namespace Setting

theorem ofKey?_eq_some_iff (k : Value) (f : Setting) : ofKey? k = some f ↔ k = .text f.key := by
  constructor
  · intro h
    rw [ofKey?] at h
    have same := List.find?_some h
    exact (Value.sameKey_text_iff k f.key).mp same
  · intro h
    rw [h]
    cases f <;> rfl

end Setting

namespace Settings

theorem get_set (s : Settings) (k f : Setting) (v : Value) :
    (s.set k v).get f = if k = f then v else s.get f := by
  cases k <;> cases f <;> rfl

theorem ext_get {s t : Settings} (h : ∀ f, s.get f = t.get f) : s = t := by
  have folder := h .folder
  have suffix := h .suffix
  have opens := h .opens
  have editor := h .editor
  cases s
  cases t
  simp_all [get]

theorem overlay_cons_of_some {e : Value × Value} {k : Setting} (h : Setting.ofKey? e.1 = some k)
    (s : Settings) (entries : List (Value × Value)) :
    s.overlay (e :: entries) = (s.set k e.2).overlay entries := by
  simp [overlay, h]

theorem overlay_cons_of_none {e : Value × Value} (h : Setting.ofKey? e.1 = none) (s : Settings)
    (entries : List (Value × Value)) : s.overlay (e :: entries) = s.overlay entries := by
  simp [overlay, h]

/-- After an overlay a setting has a value from the entries, or they hold none for it and it is as
before. -/
theorem get_overlay (f : Setting) (s : Settings) (entries : List (Value × Value)) :
    (.text f.key, (s.overlay entries).get f) ∈ entries ∨
      (∀ x, (.text f.key, x) ∉ entries) ∧ (s.overlay entries).get f = s.get f := by
  induction entries generalizing s with
  | nil => exact Or.inr ⟨by simp, rfl⟩
  | cons e entries ih =>
    -- an entry that is not for `f` changes nothing about it
    have skip {t : Settings} (he : e.1 ≠ .text f.key) (ht : t.get f = s.get f) :
        (.text f.key, (t.overlay entries).get f) ∈ e :: entries ∨
          (∀ x, (.text f.key, x) ∉ e :: entries) ∧ (t.overlay entries).get f = s.get f := by
      rcases ih t with hm | ⟨absent, same⟩
      · exact Or.inl (List.mem_cons_of_mem e hm)
      · refine Or.inr ⟨?_, same.trans ht⟩
        intro x hx
        rcases List.mem_cons.mp hx with hx | hx
        · exact he (congrArg Prod.fst hx).symm
        · exact absent x hx
    cases hk : Setting.ofKey? e.1 with
    | none =>
      rw [overlay_cons_of_none hk]
      apply skip _ rfl
      intro he
      rw [(Setting.ofKey?_eq_some_iff e.1 f).mpr he] at hk
      cases hk
    | some k =>
      have key := (Setting.ofKey?_eq_some_iff e.1 k).mp hk
      rw [overlay_cons_of_some hk]
      by_cases hf : k = f
      · subst hf
        rcases ih (s.set k e.2) with hm | ⟨-, same⟩
        · exact Or.inl (List.mem_cons_of_mem e hm)
        · left
          rw [same, get_set, if_pos rfl, ← key]
          exact List.mem_cons_self
      · apply skip
        · intro he
          rw [(Setting.ofKey?_eq_some_iff e.1 f).mpr he] at hk
          exact hf (Option.some.inj hk).symm
        · rw [get_set, if_neg hf]

/-! ### The section of a language -/

variable {raw raw' : Value} {language : Language} {f : Setting} {settings : Settings}

/-- The section of the language is a map that has `x` for the setting. -/
def InSection (raw : Value) (language : Language) (f : Setting) (x : Value) : Prop :=
  ∃ part, raw.Has language.name part ∧ part.Has f.key x

theorem InSection.unique (hk : raw.Keyed) {x y : Value} (hx : InSection raw language f x)
    (hy : InSection raw language f y) : x = y := by
  obtain ⟨part, hp, hx⟩ := hx
  obtain ⟨other, ho, hy⟩ := hy
  have same := hp.unique hk ho
  subst same
  exact hx.unique (hp.keyed hk) hy

theorem has_iff (raw : Value) (key : String) (x : Value) :
    raw.Has key x ↔ (.text key, x) ∈ (entriesOf raw).2 := by
  cases raw <;> simp [Value.Has, entriesOf]

theorem distinct_entriesOf (hk : raw.Keyed) : Value.DistinctKeys (entriesOf raw).2 := by
  cases raw with
  | map entries => exact hk.distinct
  | _ => exact .nil

theorem inSection_iff (hk : raw.Keyed) (language : Language) (f : Setting) (x : Value) :
    InSection raw language f x ↔ (.text f.key, x) ∈ (sectionOf (entriesOf raw).2 language).2 := by
  have looked (part : Value) : raw.Has language.name part ↔
      Value.lookup (entriesOf raw).2 (.text language.name) = some part := by
    rw [has_iff, Value.lookup_eq_some_iff (distinct_entriesOf hk)]
  simp only [InSection, looked, sectionOf]
  cases hl : Value.lookup (entriesOf raw).2 (.text language.name) with
  | none => simp
  | some part =>
    have falsy (ht : part.isTruthy = false) : ¬part.Has f.key x := by
      intro ⟨entries, hp, hm⟩
      subst hp
      simp only [Value.isTruthy, Bool.not_eq_false', List.isEmpty_iff] at ht
      simp [ht] at hm
    simp only [Option.some.injEq, exists_eq_left']
    by_cases ht : part.isTruthy = true
    · simp only [ht, if_true]
      cases part <;> simp [Value.Has]
    · simp [ht, falsy]

/-! ### Settings of a configuration -/

/-- The settings that a configuration value comes to, if it comes to any. -/
def blend (raw : Value) (language : Language) : Settings :=
  (({} : Settings).overlay (entriesOf raw).2).overlay (sectionOf (entriesOf raw).2 language).2

theorem interpret_snd (raw : Value) (language : Language) :
    (interpret raw language).2 =
      (Value.sort (unknownKeys (entriesOf raw).2)).map fun _ => blend raw language := by
  simp only [interpret, blend]
  generalize unknownKeys (entriesOf raw).2 = keys
  cases keys with
  | nil => rfl
  | cons k ks =>
    dsimp only
    cases Value.sort (k :: ks) <;> rfl

theorem eq_blend_of_interpret (h : (interpret raw language).2 = .ok settings) :
    settings = blend raw language := by
  rw [interpret_snd] at h
  cases hs : Value.sort (unknownKeys (entriesOf raw).2) with
  | error e =>
    rw [hs] at h
    cases h
  | ok sorted =>
    rw [hs] at h
    exact (Except.ok.inj h).symm

/-- The value of a setting: that of the section, else that of the top level, else the default. -/
inductive Chosen (raw : Value) (language : Language) (f : Setting) : Value → Prop where
  | inSection {x : Value} (h : InSection raw language f x) : Chosen raw language f x
  | atTop {x : Value} (hs : ¬∃ y, InSection raw language f y) (h : raw.Has f.key x) :
      Chosen raw language f x
  | byDefault (hs : ¬∃ y, InSection raw language f y) (ht : ¬∃ y, raw.Has f.key y) :
      Chosen raw language f (({} : Settings).get f)

theorem chosen_blend (hk : raw.Keyed) (language : Language) (f : Setting) :
    Chosen raw language f ((blend raw language).get f) := by
  rcases get_overlay f (({} : Settings).overlay (entriesOf raw).2)
    (sectionOf (entriesOf raw).2 language).2 with hm | ⟨absent, same⟩
  · exact .inSection ((inSection_iff hk language f _).mpr hm)
  · have none : ¬∃ y, InSection raw language f y := by
      intro ⟨y, hy⟩
      exact absent y ((inSection_iff hk language f y).mp hy)
    rw [blend, same]
    rcases get_overlay f {} (entriesOf raw).2 with hm | ⟨absent, same⟩
    · exact .atTop none ((has_iff _ _ _).mpr hm)
    · rw [same]
      apply Chosen.byDefault none
      intro ⟨y, hy⟩
      exact absent y ((has_iff _ _ _).mp hy)

theorem Chosen.unique (hk : raw.Keyed) {x y : Value} (hx : Chosen raw language f x)
    (hy : Chosen raw language f y) : x = y := by
  cases hx with
  | inSection hx =>
    cases hy with
    | inSection hy => exact hx.unique hk hy
    | atTop hs hy => exact absurd ⟨x, hx⟩ hs
    | byDefault hs ht => exact absurd ⟨x, hx⟩ hs
  | atTop hn hx =>
    cases hy with
    | inSection hy => exact absurd ⟨y, hy⟩ hn
    | atTop hs hy => exact hx.unique hk hy
    | byDefault hs ht => exact absurd ⟨x, hx⟩ ht
  | byDefault hn hd =>
    cases hy with
    | inSection hy => exact absurd ⟨y, hy⟩ hn
    | atTop hs hy => exact absurd ⟨y, hy⟩ hd
    | byDefault hs ht => rfl

/-- Two configurations have the same fields at the top level and in the section of the language. -/
structure SameFields (language : Language) (raw raw' : Value) : Prop where
  top : ∀ (f : Setting) x, raw.Has f.key x ↔ raw'.Has f.key x
  part : ∀ f x, InSection raw language f x ↔ InSection raw' language f x

theorem SameFields.chosen (h : SameFields language raw raw') {x : Value}
    (hx : Chosen raw language f x) : Chosen raw' language f x := by
  have absent (hs : ¬∃ y, InSection raw language f y) : ¬∃ y, InSection raw' language f y := by
    intro ⟨y, hy⟩
    exact hs ⟨y, (h.part f y).mpr hy⟩
  cases hx with
  | inSection hx => exact .inSection ((h.part f x).mp hx)
  | atTop hs hx => exact .atTop (absent hs) ((h.top f x).mp hx)
  | byDefault hs ht =>
    apply Chosen.byDefault (absent hs)
    intro ⟨y, hy⟩
    exact ht ⟨y, (h.top f y).mpr hy⟩

end Settings

namespace Configuration

open Script Settings

/-- Of a run that loads settings, the outcome is what the configuration value comes to. -/
theorem fst_run_load (source : Path) (language : Language) (file : Option Path) (w : World) :
    ((load source language file).run w).1 =
      ((value source file).run w).1.bind fun raw =>
        (interpret raw language).2.mapError .unorderable := by
  have settled (raw : Value) : ((settle language raw).run w).1 =
      (interpret raw language).2.mapError .unorderable := by
    have silent : ((settle language raw).run w).1 =
        ((ofExcept .unorderable (interpret raw language).2).run w).1 :=
      Command.fst_run_forM_log _ _ _ _ _ w
    rw [silent]
    cases (interpret raw language).2 <;> rfl
  rw [load_eq, Command.fst_run_bind_of_looks (value_observes source file).looks]
  cases ((value source file).run w).1 with
  | error e => rfl
  | ok raw => exact settled raw

theorem interpret_of_load {source : Path} {language : Language} {file : Option Path} {w : World}
    {settings : Settings} (h : ((load source language file).run w).1 = .ok settings) :
    ∃ raw, ((value source file).run w).1 = .ok raw ∧
      (interpret raw language).2 = .ok settings := by
  rw [fst_run_load] at h
  cases hv : ((value source file).run w).1 with
  | error e =>
    rw [hv] at h
    cases h
  | ok raw =>
    rw [hv] at h
    exact ⟨raw, rfl, Yaml.mapError_eq_ok h⟩

/-- Where a configuration value comes to settings, each of them has the value that the section of
the language holds for it, else that of the top level, else its default. Two values with the same
fields in these places come to the same settings. Every run that loads settings takes them from such
a value. -/
theorem settings_come_from_section_then_top (language : Language) :
    (∀ (raw : Value) (settings : Settings), raw.Keyed →
      (interpret raw language).2 = .ok settings →
      ∀ f x, settings.get f = x ↔ Chosen raw language f x) ∧
    (∀ (raw raw' : Value) (settings settings' : Settings), raw.Keyed → raw'.Keyed →
      (interpret raw language).2 = .ok settings → (interpret raw' language).2 = .ok settings' →
      SameFields language raw raw' → settings = settings') ∧
    ∀ (source : Path) (file : Option Path) (w : World) (settings : Settings),
      ((load source language file).run w).1 = .ok settings →
      ∃ raw, ((value source file).run w).1 = .ok raw ∧ raw.Keyed ∧
        (interpret raw language).2 = .ok settings := by
  refine ⟨?_, ?_, ?_⟩
  · intro raw settings hk h f x
    rw [eq_blend_of_interpret h]
    have chosen := chosen_blend hk language f
    constructor
    · intro hx
      exact hx ▸ chosen
    · intro hx
      exact chosen.unique hk hx
  · intro raw raw' settings settings' hk hk' h h' same
    rw [eq_blend_of_interpret h, eq_blend_of_interpret h']
    apply ext_get
    intro f
    exact (same.chosen (chosen_blend hk language f)).unique hk' (chosen_blend hk' language f)
  · intro source file w settings h
    obtain ⟨raw, hv, hi⟩ := interpret_of_load h
    exact ⟨raw, hv, value_yields source file w raw hv, hi⟩

/-- A suffix that is null, an editor that only one section has, a section that is no map, and keys
that mean nothing. -/
def crowdedConfiguration : Value :=
  .map [(.text "suffix", .null), (.text "typescript", .map [(.text "editor", .bool false)]),
    (.text "javascript", .int 4), (.bool true, .text "x")]

/-- The same suffix and editor in another order, and a section for the other language. -/
def sparseConfiguration : Value :=
  .map [(.text "javascript", .map [(.text "suffix", .text "test")]),
    (.text "typescript", .map [(.text "editor", .bool false)]), (.text "suffix", .null)]

theorem crowdedConfiguration_read :
    (∃ settings, (interpret crowdedConfiguration .typescript).2 = .ok settings ∧
      settings.get .suffix = .null ∧ settings.get .editor = .bool false ∧
      settings.get .folder = .text "__tests__" ∧
      (interpret sparseConfiguration .typescript).2 = .ok settings) ∧
    ∃ raw, ((value (.ofString "m.ts") none).run {}).1 = .ok raw ∧ raw.Keyed := by
  obtain ⟨fields, same, loaded⟩ := settings_come_from_section_then_top .typescript
  have crowded : crowdedConfiguration.Keyed := by
    refine .map (by simp [Value.DistinctKeys, Value.sameKey, Value.scaled?]) ?_
    simp only [List.forall_mem_cons]
    exact ⟨.other (by simp), .map (by simp [Value.DistinctKeys]) (by simpa using .other (by simp)),
      .other (by simp), .other (by simp), by simp⟩
  have sparse : sparseConfiguration.Keyed := by
    refine .map (by simp [Value.DistinctKeys, Value.sameKey]) ?_
    simp only [List.forall_mem_cons]
    exact ⟨.map (by simp [Value.DistinctKeys]) (by simpa using .other (by simp)),
      .map (by simp [Value.DistinctKeys]) (by simpa using .other (by simp)), .other (by simp),
      by simp⟩
  have top (f : Setting) (x : Value) :
      crowdedConfiguration.Has f.key x ↔ f = .suffix ∧ x = .null := by
    cases f <;> simp [Value.Has, crowdedConfiguration, Setting.key]
  have top' (f : Setting) (x : Value) :
      sparseConfiguration.Has f.key x ↔ f = .suffix ∧ x = .null := by
    cases f <;> simp [Value.Has, sparseConfiguration, Setting.key]
  have part (f : Setting) (x : Value) :
      InSection crowdedConfiguration .typescript f x ↔ f = .editor ∧ x = .bool false := by
    cases f <;> simp [InSection, Value.Has, crowdedConfiguration, Setting.key, Language.name]
  have part' (f : Setting) (x : Value) :
      InSection sparseConfiguration .typescript f x ↔ f = .editor ∧ x = .bool false := by
    cases f <;> simp [InSection, Value.Has, sparseConfiguration, Setting.key, Language.name]
  have alike : SameFields .typescript crowdedConfiguration sparseConfiguration :=
    ⟨fun f x => (top f x).trans (top' f x).symm, fun f x => (part f x).trans (part' f x).symm⟩
  have read : ∃ settings, (interpret crowdedConfiguration .typescript).2 = .ok settings := ⟨_, rfl⟩
  have read' : ∃ settings, (interpret sparseConfiguration .typescript).2 = .ok settings := ⟨_, rfl⟩
  obtain ⟨settings, hr⟩ := read
  obtain ⟨settings', hr'⟩ := read'
  have value := fields _ _ crowded hr
  constructor
  · refine ⟨settings, hr, ?_, ?_, ?_, ?_⟩
    · exact (value .suffix .null).mpr (.atTop (by simp [part]) (by simp [top]))
    · exact (value .editor (.bool false)).mpr (.inSection (by simp [part]))
    · exact (value .folder _).mpr (.byDefault (by simp [part]) (by simp [top]))
    · rw [same _ _ _ _ crowded sparse hr hr' alike, hr']
  · obtain ⟨raw, hv, hk, -⟩ := loaded (.ofString "m.ts") none {} {} rfl
    exact ⟨raw, hv, hk⟩

end Configuration

end Scaffold
