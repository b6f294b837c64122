import Mathlib
import Scaffold.Proofs.BindingRuns

/-!
# Which binding names can be bound

A module is strict code, so besides the keywords it may not bind the words that strict code
reserves, nor `eval` and `arguments`. The reserved words that binding names are kept from are not
all of these: eight are left out. They are spelt with small letters only, and a name of several runs
has a capital or something that is no letter in it, so they come about in one way: the name is such
a word with nothing around it but a gap on either side.
-/

namespace Scaffold.Identifier

/-- Words of the grammar, which are bound nowhere. -/
def keywords : List String :=
  ["await", "break", "case", "catch", "class", "const", "continue", "debugger", "default", "delete",
    "do", "else", "enum", "export", "extends", "false", "finally", "for", "function", "if",
    "import", "in", "instanceof", "new", "null", "return", "super", "switch", "this", "throw",
    "true", "try", "typeof", "var", "void", "while", "with", "yield"]

/-- Words that are bound nowhere in strict code. -/
def strictWords : List String :=
  ["let", "static", "implements", "interface", "package", "private", "protected", "public",
    "eval", "arguments"]

/-- The text can be bound by a default import: an identifier in plain characters that module code
does not reserve. -/
structure Bindable (text : String) : Prop where
  nonempty : text ≠ ""
  allowed : ∀ c ∈ text.toList, isAllowed c = true
  start : text.toList.head?.any Char.isDigit = false
  free : text ∉ keywords ∧ text ∉ strictWords

/-- The words that module code does not bind and that are not among the reserved ones. -/
def overlooked : List String :=
  ["implements", "interface", "package", "private", "protected", "public", "eval", "arguments"]

theorem mem_overlooked_iff {text : String} (h : text ∉ reserved) :
    text ∈ overlooked ↔ text ∈ keywords ∨ text ∈ strictWords := by
  have known : ∀ word ∈ keywords, word ∈ reserved := by decide
  have strict : ∀ word ∈ strictWords, word ∈ reserved ∨ word ∈ overlooked := by decide
  have listed : ∀ word ∈ overlooked, word ∈ strictWords := by decide
  constructor
  · exact fun ho => Or.inr (listed text ho)
  · rintro (hk | hs)
    · exact absurd (known text hk) h
    · exact (strict text hs).resolve_left h

theorem bindable_iff {text : String} (h : IsName text) : Bindable text ↔ text ∉ overlooked := by
  rw [mem_overlooked_iff h.free, not_or]
  exact ⟨Bindable.free, fun hf => ⟨h.nonempty, h.allowed, h.start, hf⟩⟩

/-! ### Names that are a word -/

/-- The name is the word, with a gap before and after it. -/
def Spells (name word : List Char) : Prop :=
  ∃ before after, Gap before ∧ Gap after ∧ name = before ++ word ++ after

theorem spells_iff {name word : List Char} (hw : Run word) :
    Spells name word ↔ Spaced name [word] := by
  constructor
  · rintro ⟨before, after, hb, ha, rfl⟩
    have pauses : Pauses after := fun c hc => ha c (List.mem_of_mem_head? hc)
    exact .run hb hw pauses (.gap ha)
  · intro h
    cases h with
    | @run before _ after _ hb _ _ rest =>
      cases rest with
      | gap ha => exact ⟨before, after, hb, ha, rfl⟩

/-- Small letters only can come from a single run. -/
theorem Spaced.eq_singleton {name : List Char} {rs : List (List Char)} (h : Spaced name rs)
    (hn : rs ≠ []) (hl : ∀ c ∈ assembled rs, c.isLower = true) : rs = [assembled rs] := by
  cases rs with
  | nil => exact absurd rfl hn
  | cons first others =>
    cases others with
    | nil => simp [assembled]
    | cons run others =>
      have isRun : Run run := h.run_of_mem (by simp)
      obtain ⟨c, cs, rfl⟩ := List.exists_cons_of_ne_nil isRun.1
      have capital : c.toUpper ∈ assembled (first :: (c :: cs) :: others) := by
        simp [assembled]
      have small := hl _ capital
      rw [Char.isLower_toUpper_eq_false] at small
      cases small

/-- A word of small letters that is not reserved is the binding name of the names that spell it, and
of no others. -/
theorem ofName_eq_iff {word : String} (hw : IsName word)
    (hl : ∀ c ∈ word.toList, c.isLower = true) (hs : word ≠ "subject") (name : String) :
    ofName name = word ↔ Spells name.toList word.toList := by
  rw [spells_iff hw.isRun]
  have spaced := spaced_runs name.toList
  constructor
  · intro h
    have text : chars name.toList = word.toList := by
      rw [← h, ofName, String.toList_ofList]
    rw [spaced.chars_eq] at text
    split at text
    · exact absurd (String.toList_inj.mp text).symm hs
    · rename_i hn
      rw [guarded_eq] at text
      split at text
      -- an underscore is no small letter
      · have under := hl '_' (by simp [← text])
        exact absurd under (by decide)
      · rw [← text] at hl ⊢
        have single := spaced.eq_singleton hn hl
        rw [← single]
        exact spaced
  · exact ofName_eq_of_spaced hw

theorem isName_of_mem_overlooked {word : String} (h : word ∈ overlooked) : IsName word := by
  have plain : ∀ word ∈ overlooked, word ≠ "" ∧ word.toList.all isAllowed = true ∧
      word.toList.head?.any Char.isDigit = false ∧ word ∉ reserved := by decide
  obtain ⟨nonempty, allowed, start, free⟩ := plain word h
  exact ⟨nonempty, List.all_eq_true.mp allowed, start, free⟩

theorem ofName_eq_overlooked_iff {word : String} (h : word ∈ overlooked) (name : String) :
    ofName name = word ↔ Spells name.toList word.toList := by
  have small : ∀ word ∈ overlooked,
      word.toList.all Char.isLower = true ∧ word ≠ "subject" := by decide
  obtain ⟨lower, other⟩ := small word h
  exact ofName_eq_iff (isName_of_mem_overlooked h) (List.all_eq_true.mp lower) other name

/-- Every binding name is made of allowed characters, starts with no digit and is none of the
reserved words. It can be bound unless it is one of the overlooked words, and it is such a word
exactly for the names that spell it. -/
theorem bindable_unless_overlooked (name : String) :
    IsName (ofName name) ∧
    (Bindable (ofName name) ↔ ∀ word ∈ overlooked, ¬Spells name.toList word.toList) ∧
    ∀ word ∈ overlooked, ofName name = word ↔ Spells name.toList word.toList := by
  have named := isName_ofName name
  refine ⟨named, ?_, fun word hw => ofName_eq_overlooked_iff hw name⟩
  rw [bindable_iff named]
  constructor
  · intro free word hw spells
    rw [(ofName_eq_overlooked_iff hw name).mpr spells] at free
    exact free hw
  · intro none ho
    exact none _ ho ((ofName_eq_overlooked_iff ho name).mp rfl)

/-- In two runs the word is none, and with gaps around it is the same as without. -/
theorem package_bindable_in_pieces :
    Bindable (ofName "pack-age") ∧ ofName "--package." = "package" := by
  constructor
  · refine (bindable_unless_overlooked "pack-age").2.1.mpr fun word hw spells => ?_
    have single := ((spells_iff (isName_of_mem_overlooked hw).isRun).mp spells).runs_eq
    have pieces : runs "pack-age".toList = ["pack".toList, "age".toList] := by decide
    rw [pieces] at single
    cases (List.cons.inj single).2
  · refine ((bindable_unless_overlooked "--package.").2.2 "package" (by decide)).mpr ?_
    exact ⟨['-', '-'], ['.'], by simp [Gap, isAllowed], by simp [Gap, isAllowed], rfl⟩

theorem package_not_bindable : ofName "package" = "package" ∧ ¬Bindable (ofName "package") := by
  have same : ofName "package" = "package" := by decide
  refine ⟨same, fun h => ?_⟩
  rw [same] at h
  exact h.free.2 (by decide)

end Scaffold.Identifier
