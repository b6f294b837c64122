import Scaffold.ImportLine
import Scaffold.Proofs.BindingNames

/-!
# Reading import lines back

An import line loses nothing. Up to its first quote there are only names and punctuation, and all
the rest is the specifier, whatever it holds. The names in braces are kept apart by commas, which no
name has, and spaces can be dropped before they are split. So one reader undoes `render` on all
surfaces whose names have no space, comma or single quote.
-/

namespace Scaffold.ImportLine

open Export (Surface)

/-- What an import line says. -/
structure Reading where
  hasDefault : Bool
  binding? : Option String
  names : List String
  specifier : String
deriving Repr, DecidableEq

/-- The names in a text that starts and ends with a brace. -/
def readNames (cs : List Char) : List String :=
  ((cs.tail.dropLast.filter (· != ' ')).splitOn ',').map String.ofList

/-- The binding and the names in what stands between `import` and `from`. -/
def readClause (cs : List Char) : Option String × List String :=
  if cs.head? == some '\x7b' then (none, readNames cs)
  else
    let binding := String.ofList (cs.takeWhile (· != ','))
    match cs.dropWhile (· != ',') with
    | [] => (some binding, [])
    | braced => (some binding, readNames (braced.drop 2))

def read (line : String) : Reading :=
  let rest := line.toList.drop "import ".length
  let front := rest.takeWhile (· != '\x27')
  let quoted := (rest.dropWhile (· != '\x27')).tail
  let specifier := String.ofList (quoted.take (quoted.length - "';".length))
  if front.isEmpty then ⟨false, none, [], specifier⟩
  else
    let (binding?, names) := readClause (front.take (front.length - " from ".length))
    ⟨binding?.isSome, binding?, names, specifier⟩

/-- No name has a space, a comma or a single quote. -/
def Legible (names : List String) : Prop :=
  ∀ name ∈ names, ' ' ∉ name.toList ∧ ',' ∉ name.toList ∧ '\x27' ∉ name.toList

/-! ### Names in braces -/

theorem bne_of_not_mem {c : Char} {cs : List Char} (h : c ∉ cs) : ∀ d ∈ cs, (d != c) = true := by
  intro d hd
  have : d ≠ c := fun he => h (he ▸ hd)
  simpa using this

theorem filter_intercalate {names : List (List Char)} (h : ∀ name ∈ names, ' ' ∉ name) :
    ([',', ' '].intercalate names).filter (· != ' ') = [','].intercalate names := by
  induction names with
  | nil => rfl
  | cons name names ih =>
    have kept : name.filter (· != ' ') = name :=
      List.filter_eq_self.mpr (bne_of_not_mem (h name List.mem_cons_self))
    have rest := ih fun n hn => h n (List.mem_cons_of_mem name hn)
    cases names with
    | nil => simpa using kept
    | cons other names =>
      rw [List.intercalate_cons_cons, List.intercalate_cons_cons, List.filter_append,
        List.filter_append, kept, rest]
      rfl

theorem toList_braced (names : List String) :
    (braced names).toList =
      '\x7b' :: (' ' :: [',', ' '].intercalate (names.map String.toList) ++ [' ']) ++ ['\x7d'] := by
  simp [braced, String.toList_append, String.toList_intercalate]

theorem readNames_braced {names : List String} (hn : names ≠ []) (h : Legible names) :
    readNames (braced names).toList = names := by
  have spaces : ∀ name ∈ names.map String.toList, ' ' ∉ name := by
    simpa using fun name hm => (h name hm).1
  have commas : ∀ name ∈ names.map String.toList, ',' ∉ name := by
    simpa using fun name hm => (h name hm).2.1
  rw [readNames, toList_braced, List.cons_append, List.tail_cons, List.dropLast_concat,
    List.filter_append, List.filter_cons_of_neg (by simp), filter_intercalate spaces]
  simp [List.splitOn_intercalate _ commas (by simpa using hn)]

theorem not_mem_intercalate {c : Char} {sep : List Char} (hs : c ∉ sep) {names : List (List Char)}
    (h : ∀ name ∈ names, c ∉ name) : c ∉ sep.intercalate names := by
  induction names with
  | nil => simp
  | cons name names ih =>
    cases names with
    | nil => simpa using h
    | cons other names =>
      have rest := ih fun n hn => h n (List.mem_cons_of_mem name hn)
      rw [List.intercalate_cons_cons]
      simp [hs, rest, h name List.mem_cons_self]

theorem quote_not_mem_braced {names : List String} (h : Legible names) :
    '\x27' ∉ (braced names).toList := by
  have quotes : ∀ name ∈ names.map String.toList, '\x27' ∉ name := by
    simpa using fun name hm => (h name hm).2.2
  simp [toList_braced, not_mem_intercalate _ quotes]

/-! ### Clauses -/

theorem takeWhile_of_not_mem {c : Char} {front : List Char} (h : c ∉ front) (rest : List Char) :
    (front ++ c :: rest).takeWhile (· != c) = front := by
  rw [List.takeWhile_append_of_pos (bne_of_not_mem h), List.takeWhile_cons_of_neg (by simp),
    List.append_nil]

theorem dropWhile_of_not_mem {c : Char} {front : List Char} (h : c ∉ front) (rest : List Char) :
    (front ++ c :: rest).dropWhile (· != c) = c :: rest := by
  rw [List.dropWhile_append_of_pos (bne_of_not_mem h), List.dropWhile_cons_of_neg (by simp)]

/-- A text that can be told from the punctuation of a clause. -/
structure Bindable (binding : String) : Prop where
  comma : ',' ∉ binding.toList
  brace : '\x7b' ∉ binding.toList
  quote : '\x27' ∉ binding.toList

theorem bindable_ofName (name : String) : Bindable (Identifier.ofName name) :=
  ⟨Identifier.not_mem_ofName (by decide) name, Identifier.not_mem_ofName (by decide) name,
    Identifier.not_mem_ofName (by decide) name⟩

theorem readClause_of_names {names : List String} (hn : names ≠ []) (h : Legible names) :
    readClause (braced names).toList = (none, names) := by
  rw [readClause, if_pos (by simp [toList_braced]), readNames_braced hn h]

theorem readClause_of_binding {binding : String} (hb : Bindable binding) :
    readClause binding.toList = (some binding, []) := by
  have head : ¬(binding.toList.head? == some '\x7b') = true := by
    intro he
    exact hb.brace (List.mem_of_mem_head? (by simpa using he))
  have whole := bne_of_not_mem hb.comma
  have taken : binding.toList.takeWhile (· != ',') = binding.toList := by
    simpa using @List.takeWhile_append_of_pos _ _ _ [] whole
  have dropped : binding.toList.dropWhile (· != ',') = [] := by
    simpa using @List.dropWhile_append_of_pos _ _ _ [] whole
  simp [readClause, head, taken, dropped]

theorem readClause_of_both {binding : String} {names : List String} (hb : Bindable binding)
    (hn : names ≠ []) (h : Legible names) :
    readClause (binding ++ ", " ++ braced names).toList = (some binding, names) := by
  have text : (binding ++ ", " ++ braced names).toList =
      binding.toList ++ ',' :: ' ' :: (braced names).toList := by
    simp [String.toList_append]
  have head : ¬((binding.toList ++ ',' :: ' ' :: (braced names).toList).head? ==
      some '\x7b') = true := by
    -- an empty binding would leave the comma in front, which is no brace either
    cases hc : binding.toList with
    | nil => simp
    | cons c cs =>
      intro he
      have : c = '\x7b' := by simpa using he
      exact hb.brace (by simp [hc, this])
  rw [text, readClause, if_neg head, takeWhile_of_not_mem hb.comma, dropWhile_of_not_mem hb.comma]
  simp [readNames_braced hn h]

theorem readClause_clause {s : Surface} {binding : String} (he : s.isEmpty = false)
    (hb : Bindable binding) (h : Legible s.names) :
    readClause (clause s binding).toList =
      (if s.hasDefault then some binding else none, s.names) := by
  obtain ⟨names, hasDefault⟩ := s
  cases hasDefault with
  | true =>
    cases names with
    | nil => simpa [clause] using readClause_of_binding hb
    | cons name names => simpa [clause] using readClause_of_both hb (by simp) h
  | false =>
    cases names with
    | nil => simp [Surface.isEmpty] at he
    | cons name names => simpa [clause] using readClause_of_names (by simp) h

theorem quote_not_mem_clause {s : Surface} {binding : String} (hb : Bindable binding)
    (h : Legible s.names) : '\x27' ∉ (clause s binding).toList := by
  have names := quote_not_mem_braced h
  unfold clause
  split <;> simp_all [String.toList_append, hb.quote]

/-! ### Whole lines -/

theorem read_of_toList {line specifier : String} {front : List Char}
    (hl : line.toList =
      "import ".toList ++ (front ++ '\x27' :: (specifier.toList ++ "';".toList)))
    (hq : '\x27' ∉ front) :
    read line =
      if front.isEmpty then ⟨false, none, [], specifier⟩
      else
        let clause := readClause (front.take (front.length - " from ".length))
        ⟨clause.1.isSome, clause.1, clause.2, specifier⟩ := by
  have rest : line.toList.drop "import ".length =
      front ++ '\x27' :: (specifier.toList ++ "';".toList) := by
    rw [hl, ← String.length_toList, List.drop_left]
  have cut : (specifier.toList ++ "';".toList).take
      ((specifier.toList ++ "';".toList).length - "';".length) = specifier.toList := by
    rw [List.length_append, ← String.length_toList, Nat.add_sub_cancel, List.take_left]
  simp only [read, rest, takeWhile_of_not_mem hq, dropWhile_of_not_mem hq, List.tail_cons, cut,
    String.ofList_toList]

theorem read_render {s : Surface} {binding : String} (specifier : String) (hb : Bindable binding)
    (h : Legible s.names) :
    read (render s binding specifier) =
      ⟨s.hasDefault, if s.hasDefault then some binding else none, s.names, specifier⟩ := by
  cases he : s.isEmpty with
  | true =>
    have parts : s.names = [] ∧ s.hasDefault = false := by simpa [Surface.isEmpty] using he
    have line : (render s binding specifier).toList =
        "import ".toList ++ ([] ++ '\x27' :: (specifier.toList ++ "';".toList)) := by
      simp [render, he, String.toList_append]
    rw [read_of_toList line (by simp)]
    simp [parts]
  | false =>
    have line : (render s binding specifier).toList =
        "import ".toList ++ ((clause s binding).toList ++ " from ".toList ++
          '\x27' :: (specifier.toList ++ "';".toList)) := by
      simp [render, he, String.toList_append]
    have cut : ((clause s binding).toList ++ " from ".toList).take
        (((clause s binding).toList ++ " from ".toList).length - " from ".length) =
          (clause s binding).toList := by
      rw [List.length_append, ← String.length_toList, Nat.add_sub_cancel, List.take_left]
    have quotes : '\x27' ∉ (clause s binding).toList ++ " from ".toList := by
      simp [quote_not_mem_clause hb h]
    rw [read_of_toList line quotes, cut, readClause_clause he hb h]
    cases s.hasDefault <;> simp

theorem surface_eq {s s' : Surface} (hn : s.names = s'.names) (hd : s.hasDefault = s'.hasDefault) :
    s = s' := by
  cases s
  cases s'
  simp_all

/-- One reader gets everything back out of an import line: whether there is a default export and
its binding, the names in order, and the specifier. So lines differ where surfaces or specifiers
do, and only the empty surface gives a line that imports for effects. -/
theorem import_lines_are_lossless :
    (∀ (s : Surface) (name specifier : String), Legible s.names →
      read (render s (Identifier.ofName name) specifier) =
        ⟨s.hasDefault, if s.hasDefault then some (Identifier.ofName name) else none, s.names,
          specifier⟩) ∧
    (∀ (s s' : Surface) (name name' specifier specifier' : String),
      Legible s.names → Legible s'.names → (s, specifier) ≠ (s', specifier') →
      render s (Identifier.ofName name) specifier ≠
        render s' (Identifier.ofName name') specifier') ∧
    ∀ (s : Surface) (name specifier : String), Legible s.names →
      ((∃ text, render s (Identifier.ofName name) specifier = "import '" ++ text ++ "';") ↔
        s = {}) := by
  refine ⟨fun s name specifier h => read_render specifier (bindable_ofName name) h, ?_, ?_⟩
  · intro s s' name name' specifier specifier' h h' differ same
    have readings := congrArg read same
    rw [read_render specifier (bindable_ofName name) h,
      read_render specifier' (bindable_ofName name') h', Reading.mk.injEq] at readings
    obtain ⟨flags, -, names, specifiers⟩ := readings
    apply differ
    rw [specifiers, surface_eq names flags]
  · intro s name specifier h
    constructor
    · rintro ⟨text, line⟩
      -- such a line is also that of the empty surface, and the reader tells which one it was
      have effects : render {} (Identifier.ofName name) text = "import '" ++ text ++ "';" := rfl
      have readings := congrArg read (line.trans effects.symm)
      rw [read_render specifier (bindable_ofName name) h,
        read_render text (bindable_ofName name) (by simp [Legible]), Reading.mk.injEq] at readings
      exact surface_eq readings.2.2.1 readings.1
    · rintro rfl
      exact ⟨specifier, rfl⟩

/-- Keywords, a name that comes twice, an empty one and one with braces. -/
def knottySurface : Surface :=
  ⟨["from", "default", "", "\\u\x7b61\x7d", "from"], true⟩

theorem knottySurface_read_back :
    read (render knottySurface (Identifier.ofName "my-module") "./a' from 'b';") =
        ⟨true, some "myModule", ["from", "default", "", "\\u\x7b61\x7d", "from"], "./a' from 'b';"⟩ ∧
      render knottySurface (Identifier.ofName "a") "./m" ≠
        render { knottySurface with hasDefault := false } (Identifier.ofName "a") "./m" ∧
      ¬∃ text, render knottySurface (Identifier.ofName "a") "./m" = "import '" ++ text ++ "';" := by
  have legible : Legible knottySurface.names := by
    unfold Legible knottySurface
    decide
  obtain ⟨back, differ, effects⟩ := import_lines_are_lossless
  refine ⟨?_, differ _ _ _ _ _ _ legible legible (by decide), ?_⟩
  · have name : Identifier.ofName "my-module" = "myModule" := by decide
    rw [back knottySurface "my-module" _ legible, name]
    rfl
  · rw [effects knottySurface "a" "./m" legible]
    decide

end Scaffold.ImportLine
