import Scaffold.Proofs.BindingNames

/-!
# Binding names by runs

A name is gaps and runs in turn: the runs are made of allowed characters, the gaps of all others.
`Spaced` says so without the function that finds the runs, and fixes them. The binding name is what
the runs come to: the first as it is, the others capitalized, with one underscore in front where
the text starts with a digit or is a reserved word. Nothing else of the name counts. A text that
could be bound as it stands is a single run and needs no underscore, so it is its own binding name,
and every binding name is such a text.
-/

namespace Scaffold.Identifier

/-! ### Gaps and runs -/

/-- None of the characters is allowed. -/
def Gap (cs : List Char) : Prop :=
  ∀ c ∈ cs, isAllowed c = false

/-- At least one character, and all of them allowed. -/
def Run (cs : List Char) : Prop :=
  cs ≠ [] ∧ ∀ c ∈ cs, isAllowed c = true

/-- The text does not go on with an allowed character. -/
def Pauses (cs : List Char) : Prop :=
  ∀ c ∈ cs.head?, isAllowed c = false

/-- The text is made of these runs in this order, each of them as long as it can be, and of gaps. -/
inductive Spaced : List Char → List (List Char) → Prop where
  | gap {cs : List Char} (hg : Gap cs) : Spaced cs []
  | run {before run rest : List Char} {others : List (List Char)} (hg : Gap before) (hr : Run run)
      (hp : Pauses rest) (h : Spaced rest others) : Spaced (before ++ run ++ rest) (run :: others)

variable {cs run rest : List Char} {others : List (List Char)}

theorem Spaced.start (hr : Run run) (hp : Pauses rest) (h : Spaced rest others) :
    Spaced (run ++ rest) (run :: others) := by
  have nothing : Gap [] := by simp [Gap]
  exact .run nothing hr hp h

theorem runs_cons_of_not_allowed {c : Char} (h : isAllowed c = false) (cs : List Char) :
    runs (c :: cs) = runs cs := by
  simp [runs, h]

theorem runs_gap_append (h : Gap cs) (rest : List Char) : runs (cs ++ rest) = runs rest := by
  induction cs with
  | nil => rfl
  | cons c cs ih =>
    rw [List.cons_append, runs_cons_of_not_allowed (h c List.mem_cons_self)]
    exact ih fun d hd => h d (List.mem_cons_of_mem c hd)

theorem runs_cons_of_pauses {c : Char} (h : isAllowed c = true) (hp : Pauses cs) :
    runs (c :: cs) = [c] :: runs cs := by
  have stops : cs.head?.any isAllowed = false := by
    cases cs with
    | nil => rfl
    | cons d cs => exact hp d rfl
  simp [runs, h, stops]

theorem runs_cons_of_goes_on {c d : Char} (hc : isAllowed c = true) (hd : isAllowed d = true)
    (h : runs (d :: cs) = run :: others) : runs (c :: d :: cs) = (c :: run) :: others := by
  rw [runs, if_pos hc, h]
  simp [hd]

theorem runs_run_append (hr : Run run) (hp : Pauses rest) :
    runs (run ++ rest) = run :: runs rest := by
  obtain ⟨hn, ha⟩ := hr
  induction run with
  | nil => exact absurd rfl hn
  | cons c run ih =>
    have first := ha c List.mem_cons_self
    cases run with
    | nil => exact runs_cons_of_pauses first hp
    | cons d run =>
      have tail : ∀ x ∈ d :: run, isAllowed x = true :=
        fun x hx => ha x (List.mem_cons_of_mem c hx)
      exact runs_cons_of_goes_on first (tail d List.mem_cons_self) (ih (by simp) tail)

theorem Spaced.runs_eq (h : Spaced cs others) : runs cs = others := by
  induction h with
  | gap hg => simpa [runs] using runs_gap_append hg []
  | run hg hr hp _ ih => rw [List.append_assoc, runs_gap_append hg, runs_run_append hr hp, ih]

theorem Spaced.cons_gap {c : Char} (hc : isAllowed c = false) (h : Spaced cs others) :
    Spaced (c :: cs) others := by
  have wider {before : List Char} (hg : Gap before) : Gap (c :: before) := by
    intro d hd
    rcases List.mem_cons.mp hd with rfl | hd
    · exact hc
    · exact hg d hd
  cases h with
  | gap hg => exact .gap (wider hg)
  | run hg hr hp h => exact .run (wider hg) hr hp h

/-- Where a text starts with a run, an allowed character in front makes that run longer. -/
theorem Spaced.cons_run {c : Char} (hc : isAllowed c = true) (hs : ¬Pauses cs)
    (h : Spaced cs others) :
    ∃ run more, others = run :: more ∧ Spaced (c :: cs) ((c :: run) :: more) := by
  cases h with
  | gap hg => exact absurd (fun d hd => hg d (List.mem_of_mem_head? hd)) hs
  | @run before run rest more hg hr hp h =>
    cases before with
    | cons d before =>
      refine absurd ?_ hs
      intro e he
      cases he
      exact hg d List.mem_cons_self
    | nil =>
      have longer : Run (c :: run) := by
        refine ⟨by simp, fun d hd => ?_⟩
        rcases List.mem_cons.mp hd with rfl | hd
        · exact hc
        · exact hr.2 d hd
      exact ⟨run, more, rfl, .start longer hp h⟩

theorem spaced_runs (cs : List Char) : Spaced cs (runs cs) := by
  induction cs with
  | nil => exact .gap (by simp [Gap])
  | cons c cs ih =>
    cases hc : isAllowed c with
    | false =>
      rw [runs_cons_of_not_allowed hc]
      exact ih.cons_gap hc
    | true =>
      by_cases hp : Pauses cs
      · rw [runs_cons_of_pauses hc hp]
        have alone : Run [c] := ⟨by simp, by simpa using hc⟩
        exact .start alone hp ih
      · obtain ⟨run, more, -, longer⟩ := ih.cons_run hc hp
        rw [longer.runs_eq]
        exact longer

theorem spaced_iff (cs : List Char) (others : List (List Char)) :
    Spaced cs others ↔ runs cs = others := by
  constructor
  · exact Spaced.runs_eq
  · rintro rfl
    exact spaced_runs cs

theorem Gap.filter_eq_nil (h : Gap cs) : cs.filter isAllowed = [] := by
  rw [List.filter_eq_nil_iff]
  intro c hc
  simp [h c hc]

theorem Spaced.flatten_eq (h : Spaced cs others) : others.flatten = cs.filter isAllowed := by
  induction h with
  | gap hg => rw [hg.filter_eq_nil, List.flatten_nil]
  | run hg hr _ _ ih =>
    have kept := List.filter_eq_self.mpr hr.2
    rw [List.filter_append, List.filter_append, hg.filter_eq_nil, kept, ← ih]
    rfl

theorem Spaced.run_of_mem (h : Spaced cs others) (hm : run ∈ others) : Run run := by
  induction h with
  | gap hg => cases hm
  | run _ hr _ _ ih =>
    rcases List.mem_cons.mp hm with rfl | hm
    · exact hr
    · exact ih hm

/-! ### The text that runs come to -/

/-- The runs one after another, each but the first with a capital. -/
def assembled : List (List Char) → List Char
  | [] => []
  | first :: others => first ++ (others.map fun run => run.modifyHead Char.toUpper).flatten

/-- The text starts with a digit or is a reserved word. -/
def Unfit (cs : List Char) : Prop :=
  cs.head?.any Char.isDigit = true ∨ String.ofList cs ∈ reserved

instance (cs : List Char) : Decidable (Unfit cs) :=
  inferInstanceAs (Decidable (_ ∨ _))

theorem capitalize_eq (run : List Char) : capitalize run = run.modifyHead Char.toUpper := by
  cases run <;> rfl

theorem underscore_fit (cs : List Char) : ¬Unfit ('_' :: cs) := by
  have plain : ∀ word ∈ reserved, word.toList.head? ≠ some '_' := by decide
  rintro (hd | hr)
  · exact absurd (show '_'.isDigit = true from hd) (by decide)
  · exact plain _ hr (by simp)

/-- With an underscore in front a text is neither of what calls for one, so there is never a second
underscore. -/
theorem guarded_eq (cs : List Char) : guarded cs = if Unfit cs then '_' :: cs else cs := by
  unfold guarded
  dsimp only
  by_cases hd : cs.head?.any Char.isDigit = true
  · have unfit : Unfit cs := Or.inl hd
    have second : reserved.contains (String.ofList ('_' :: cs)) = false := by
      rw [Bool.eq_false_iff, ne_eq, List.contains_iff_mem]
      exact fun hr => underscore_fit cs (Or.inr hr)
    rw [if_pos hd, second, if_pos unfit]
    rfl
  · simp only [Unfit, hd, Bool.false_eq_true, false_or, List.contains_iff_mem, if_false]

theorem guarded_fit (cs : List Char) : ¬Unfit (guarded cs) := by
  rw [guarded_eq]
  split
  · exact underscore_fit cs
  · assumption

theorem Spaced.chars_eq {name : List Char} (h : Spaced name others) :
    chars name = if others = [] then "subject".toList else guarded (assembled others) := by
  have capitals : capitalize = fun run => run.modifyHead Char.toUpper := funext capitalize_eq
  rw [chars, h.runs_eq]
  cases others with
  | nil => rfl
  | cons first others => rw [if_neg (by simp), assembled, capitals]

theorem Spaced.assembled_ne_nil {name : List Char} (h : Spaced name others) (hn : others ≠ []) :
    assembled others ≠ [] := by
  cases others with
  | nil => exact absurd rfl hn
  | cons first others =>
    have hf := (h.run_of_mem List.mem_cons_self).1
    simp [assembled, hf]

theorem chars_fit (name : List Char) : ¬Unfit (chars name) := by
  rw [(spaced_runs name).chars_eq]
  split
  · decide
  · exact guarded_fit _

theorem chars_ne_nil (name : List Char) : chars name ≠ [] := by
  have spaced := spaced_runs name
  rw [spaced.chars_eq]
  split
  · decide
  · rename_i hn
    rw [guarded_eq]
    split
    · simp
    · exact spaced.assembled_ne_nil hn

/-! ### Texts that are their own binding names -/

/-- Allowed characters, at least one, the first of them no digit, that are not a reserved word. -/
structure IsName (text : String) : Prop where
  nonempty : text ≠ ""
  allowed : ∀ c ∈ text.toList, isAllowed c = true
  start : text.toList.head?.any Char.isDigit = false
  free : text ∉ reserved

theorem IsName.fit {text : String} (h : IsName text) : ¬Unfit text.toList := by
  rintro (hd | hr)
  · simp [h.start] at hd
  · rw [String.ofList_toList] at hr
    exact h.free hr

theorem IsName.isRun {text : String} (h : IsName text) : Run text.toList :=
  ⟨mt String.toList_eq_nil_iff.mp h.nonempty, h.allowed⟩

theorem isName_ofName (name : String) : IsName (ofName name) := by
  have fit := chars_fit name.toList
  have text : (ofName name).toList = chars name.toList := String.toList_ofList
  refine ⟨?_, ?_, ?_, ?_⟩
  · rw [ne_eq, ← String.toList_eq_nil_iff, text]
    exact chars_ne_nil _
  · rw [text]
    exact fun c => isAllowed_of_mem_chars
  · rw [text]
    rw [Bool.eq_false_iff]
    exact fun hd => fit (Or.inl hd)
  · exact fun hr => fit (Or.inr hr)

theorem ofName_eq_of_spaced {name text : String} (h : IsName text)
    (hs : Spaced name.toList [text.toList]) : ofName name = text := by
  have alone : assembled [text.toList] = text.toList := List.append_nil _
  rw [ofName, hs.chars_eq, if_neg (by simp), alone, guarded_eq, if_neg h.fit,
    String.ofList_toList]

theorem ofName_eq_self {text : String} (h : IsName text) : ofName text = text := by
  have spaced : Spaced (text.toList ++ []) [text.toList] :=
    .start h.isRun (by simp [Pauses]) (.gap (by simp [Gap]))
  rw [List.append_nil] at spaced
  exact ofName_eq_of_spaced h spaced

/-- The binding names are the texts of allowed characters that start with no digit and are not
reserved, and each of these is its own binding name. For every name with an allowed character the
binding name is made of all of them in order: the first of each run but the first becomes a capital,
and an underscore comes in front exactly where the text would be unfit without. The runs of a name
are fixed, and names with the same runs have the same binding name. -/
theorem ofName_is_retraction :
    (∀ text, (∃ name, ofName name = text) ↔ IsName text) ∧
    (∀ text, IsName text → ofName text = text) ∧
    (∀ name, ofName (ofName name) = ofName name) ∧
    (∀ name : String, (∃ c ∈ name.toList, isAllowed c = true) →
      ∃ first others, Spaced name.toList (first :: others) ∧
        first ++ others.flatten = name.toList.filter isAllowed ∧
        let text := first ++ (others.map fun run => run.modifyHead Char.toUpper).flatten
        (ofName name).toList = if Unfit text then '_' :: text else text) ∧
    (∀ name : String, ∃ rs, ∀ others, Spaced name.toList others ↔ others = rs) ∧
    ∀ (name name' : String) (rs : List (List Char)),
      Spaced name.toList rs → Spaced name'.toList rs → ofName name = ofName name' := by
  refine ⟨?_, fun text => ofName_eq_self, fun name => ofName_eq_self (isName_ofName name), ?_, ?_,
    ?_⟩
  · intro text
    constructor
    · rintro ⟨name, rfl⟩
      exact isName_ofName name
    · exact fun h => ⟨text, ofName_eq_self h⟩
  · intro name ⟨c, hc, ha⟩
    have spaced := spaced_runs name.toList
    have kept := spaced.flatten_eq
    have text := spaced.chars_eq
    cases hr : runs name.toList with
    | nil =>
      have : c ∈ name.toList.filter isAllowed := List.mem_filter.mpr ⟨hc, ha⟩
      simp [← kept, hr] at this
    | cons first others =>
      rw [hr] at spaced kept text
      refine ⟨first, others, spaced, kept, ?_⟩
      rw [ofName, String.toList_ofList, text, if_neg (by simp), guarded_eq]
      rfl
  · intro name
    refine ⟨runs name.toList, fun others => ?_⟩
    rw [spaced_iff, eq_comm]
  · intro name name' rs h h'
    rw [ofName, ofName, h.chars_eq, h'.chars_eq]

/-- Two names with the same three runs, the first of which starts with a digit. -/
theorem digits_and_gaps_bound :
    ofName "3d-model..x" = "_3dModelX" ∧ ofName "--3d model/*x" = "_3dModelX" ∧
      ofName "_3dModelX" = "_3dModelX" := by
  obtain ⟨image, fixed, -, made, -, same⟩ := ofName_is_retraction
  have spaced : Spaced "3d-model..x".toList ["3d".toList, "model".toList, "x".toList] :=
    (spaced_iff _ _).mpr (by decide)
  have spaced' : Spaced "--3d model/*x".toList ["3d".toList, "model".toList, "x".toList] :=
    (spaced_iff _ _).mpr (by decide)
  have first : ofName "3d-model..x" = "_3dModelX" := by
    obtain ⟨run, others, hs, -, text⟩ := made "3d-model..x" ⟨'d', by decide, by decide⟩
    have runs := hs.runs_eq.symm.trans spaced.runs_eq
    rw [List.cons.injEq] at runs
    rw [runs.1, runs.2] at text
    rw [← String.toList_inj, text]
    decide
  have second := same _ _ _ spaced spaced'
  exact ⟨first, second ▸ first, fixed _ ((image _).mp ⟨_, first⟩)⟩

end Scaffold.Identifier
