import Scaffold.Proofs.ImportReading
import Scaffold.Proofs.TargetSpecifiers
import Scaffold.TestFile

/-!
# The import as a string literal

The specifier stands in the import line between single quotes, as it is. A loader reads it as the
body of a string literal in strict code: backslashes start escapes, and quotes and line ends end
the literal. Each escape stands for fewer units than it is written with, so a body with a backslash
never denotes itself. A specifier is therefore denoted by its import line exactly when it has no
quote, backslash, line feed or carriage return. These can only come from names of the source and
of the working folder.
-/

namespace Scaffold.StringLiteral

/-- The 16-bit units of a code point. -/
def units (n : Nat) : List Nat :=
  if n < 0x10000 then [n] else [0xd800 + (n - 0x10000) / 1024, 0xdc00 + (n - 0x10000) % 1024]

def encode (cs : List Char) : List Nat :=
  cs.flatMap fun c => units c.toNat

def isLineEnd (c : Char) : Bool :=
  c == '\n' || c == '\r' || c == '\u2028' || c == '\u2029'

def hexValue? (c : Char) : Option Nat :=
  if '0' ≤ c && c ≤ '9' then some (c.toNat - 48)
  else if 'a' ≤ c && c ≤ 'f' then some (c.toNat - 87)
  else if 'A' ≤ c && c ≤ 'F' then some (c.toNat - 55)
  else none

/-- Letters and marks that stand for one unit behind a backslash. -/
def singles : List (Char × Nat) :=
  [('\'', 0x27), ('"', 0x22), ('\\', 0x5c), ('b', 0x08), ('t', 0x09), ('n', 0x0a), ('v', 0x0b),
    ('f', 0x0c), ('r', 0x0d)]

/-- What may follow a backslash in strict code, the units it stands for, and the text behind it,
which must not make it longer. -/
inductive Escape : List Char → List Nat → List Char → Prop where
  | single {c : Char} {n : Nat} {rest : List Char} (h : (c, n) ∈ singles) : Escape [c] [n] rest
  | itself {c : Char} {rest : List Char} (hs : ∀ n, (c, n) ∉ singles) (hd : c.isDigit = false)
      (hx : c ≠ 'x') (hu : c ≠ 'u') (hl : isLineEnd c = false) : Escape [c] (units c.toNat) rest
  | zero {rest : List Char} (h : rest.head?.any Char.isDigit = false) : Escape ['0'] [0] rest
  | hex {a b : Char} {x y : Nat} {rest : List Char} (ha : hexValue? a = some x)
      (hb : hexValue? b = some y) : Escape ['x', a, b] [x * 16 + y] rest
  | unicode {a b c d : Char} {w x y z : Nat} {rest : List Char} (ha : hexValue? a = some w)
      (hb : hexValue? b = some x) (hc : hexValue? c = some y) (hd : hexValue? d = some z) :
      Escape ['u', a, b, c, d] [((w * 16 + x) * 16 + y) * 16 + z] rest
  | point {digits : List Char} {values : List Nat} {rest : List Char} (hn : digits ≠ [])
      (hv : digits.map hexValue? = values.map some)
      (hl : values.foldl (· * 16 + ·) 0 ≤ 0x10ffff) :
      Escape ('u' :: '\x7b' :: digits ++ ['\x7d']) (units (values.foldl (· * 16 + ·) 0)) rest
  | lineEnd {c : Char} {rest : List Char} (h : isLineEnd c = true)
      (hr : c = '\r' → rest.head? ≠ some '\n') : Escape [c] [] rest
  | lineEnds {rest : List Char} : Escape ['\r', '\n'] [] rest

/-- The characters that do not stand for themselves between single quotes. -/
def special : List Char :=
  ['\'', '\\', '\n', '\r']

/-- The body of a literal between single quotes, and the units that it denotes. -/
inductive Denotes : List Char → List Nat → Prop where
  | nil : Denotes [] []
  | plain {c : Char} {cs : List Char} {us : List Nat} (h : c ∉ special) (rest : Denotes cs us) :
      Denotes (c :: cs) (units c.toNat ++ us)
  | escape {written cs : List Char} {value us : List Nat} (h : Escape written value cs)
      (rest : Denotes cs us) : Denotes ('\\' :: (written ++ cs)) (value ++ us)

/-- The body is well formed, and denotes this text and no other. -/
def Spells (body text : String) : Prop :=
  ∀ us, Denotes body.toList us ↔ us = encode text.toList

/-! ### Lengths -/

theorem length_units_pos (n : Nat) : 0 < (units n).length := by
  by_cases h : n < 0x10000 <;> simp [units, h]

theorem length_units_le (n : Nat) : (units n).length ≤ 2 := by
  by_cases h : n < 0x10000 <;> simp [units, h]

theorem encode_append (cs ds : List Char) : encode (cs ++ ds) = encode cs ++ encode ds := by
  simp [encode]

theorem encode_cons (c : Char) (cs : List Char) : encode (c :: cs) = units c.toNat ++ encode cs := by
  simp [encode]

theorem length_le_encode (cs : List Char) : cs.length ≤ (encode cs).length := by
  induction cs with
  | nil => simp
  | cons c cs ih =>
    have := length_units_pos c.toNat
    simp only [encode_cons, List.length_append, List.length_cons]
    omega

theorem Escape.length_le {written rest : List Char} {value : List Nat}
    (h : Escape written value rest) : value.length ≤ (encode written).length := by
  have longer := length_le_encode written
  cases h with
  | single h => simpa using longer
  | itself hs hd hx hu hl => simp [encode]
  | zero h => simpa using longer
  | hex ha hb =>
    simp only [List.length_cons, List.length_nil] at longer ⊢
    omega
  | unicode ha hb hc hd =>
    simp only [List.length_cons, List.length_nil] at longer ⊢
    omega
  | point hn hv hl =>
    have := length_units_le (List.foldl (· * 16 + ·) 0 ‹List Nat›)
    simp only [List.length_cons, List.length_append, List.length_nil] at longer
    omega
  | lineEnd h hr => simp
  | lineEnds => simp

/-- An escape is written with more units than it stands for. -/
theorem Denotes.length_lt {cs : List Char} {us : List Nat} (h : Denotes cs us) :
    us.length ≤ (encode cs).length ∧ ('\\' ∈ cs → us.length < (encode cs).length) := by
  induction h with
  | nil => simp [encode]
  | @plain c cs us hc rest ih =>
    have other : '\\' ≠ c := by
      intro he
      simp [← he, special] at hc
    simp only [encode_cons, List.length_append, List.mem_cons, other, false_or]
    exact ⟨by omega, fun hm => by have := ih.2 hm; omega⟩
  | @escape written cs value us he rest ih =>
    have := he.length_le
    have := length_units_pos '\\'.toNat
    simp only [encode_cons, encode_append, List.length_append]
    omega

/-! ### Bodies that denote themselves -/

theorem denotes_encode {cs : List Char} (h : ∀ c ∈ cs, c ∉ special) : Denotes cs (encode cs) := by
  induction cs with
  | nil => exact .nil
  | cons c cs ih =>
    rw [encode_cons]
    exact .plain (h c List.mem_cons_self) (ih fun d hd => h d (List.mem_cons_of_mem c hd))

theorem Denotes.of_no_backslash {cs : List Char} {us : List Nat} (h : Denotes cs us)
    (hb : '\\' ∉ cs) : (∀ c ∈ cs, c ∉ special) ∧ us = encode cs := by
  induction h with
  | nil => simp [encode]
  | @plain c cs us hc rest ih =>
    obtain ⟨free, same⟩ := ih fun hm => hb (List.mem_cons_of_mem c hm)
    refine ⟨?_, by rw [encode_cons, same]⟩
    intro d hd
    rcases List.mem_cons.mp hd with rfl | hd
    · exact hc
    · exact free d hd
  | escape he rest ih => simp at hb

theorem spells_self_iff (text : String) :
    Spells text text ↔ ∀ c ∈ special, c ∉ text.toList := by
  constructor
  · intro h
    have itself : Denotes text.toList (encode text.toList) := (h _).mpr rfl
    have plain : '\\' ∉ text.toList := by
      intro hb
      exact absurd (itself.length_lt.2 hb) (Nat.lt_irrefl _)
    intro c hs hc
    exact (itself.of_no_backslash plain).1 c hc hs
  · intro h us
    have plain : '\\' ∉ text.toList := h _ (by simp [special])
    constructor
    · intro hd
      exact (hd.of_no_backslash plain).2
    · intro he
      rw [he]
      exact denotes_encode fun c hc hs => h c hs hc

end StringLiteral

/-! ### The first line of a test -/

namespace TestFile

open StringLiteral (isLineEnd)
open ImportLine (Legible braced clause)
open Export (Surface)

variable {ends : Char → Bool}

/-- A text up to the first character that ends a line. -/
def firstLine (ends : Char → Bool) (text : String) : String :=
  String.ofList (text.toList.takeWhile fun c => !ends c)

/-- No character of the text ends a line. -/
def OneLine (ends : Char → Bool) (text : String) : Prop :=
  ∀ c ∈ text.toList, ends c = false

@[simp]
theorem oneLine_append (a b : String) :
    OneLine ends (a ++ b) ↔ OneLine ends a ∧ OneLine ends b := by
  simp only [OneLine, String.toList_append, List.mem_append]
  constructor
  · intro h
    exact ⟨fun c hc => h c (Or.inl hc), fun c hc => h c (Or.inr hc)⟩
  · intro h c hc
    rcases hc with hc | hc
    · exact h.1 c hc
    · exact h.2 c hc

theorem oneLine_intercalate {sep : String} {texts : List String} (hs : OneLine ends sep)
    (h : ∀ t ∈ texts, OneLine ends t) : OneLine ends (sep.intercalate texts) := by
  induction texts with
  | nil => simp [OneLine]
  | cons text texts ih =>
    have rest := ih fun t ht => h t (List.mem_cons_of_mem text ht)
    have first := h text List.mem_cons_self
    cases texts with
    | nil => simpa using first
    | cons other texts =>
      rw [String.intercalate_cons_of_ne_nil (by simp)]
      simp [first, hs, rest]

theorem OneLine.mono {text : String} (h : OneLine isLineEnd text)
    (he : ∀ c, ends c = true → isLineEnd c = true) : OneLine ends text := by
  intro c hc
  have := h c hc
  cases hb : ends c with
  | false => rfl
  | true => simp [he c hb] at this

theorem firstLine_append_iff (line rest : String) {c : Char} (hc : ends c = true) :
    firstLine ends (line ++ String.singleton c ++ rest) = line ↔ OneLine ends line := by
  have text : (line ++ String.singleton c ++ rest).toList = line.toList ++ c :: rest.toList := by
    simp [String.toList_append]
  rw [firstLine, text]
  constructor
  · intro h d hd
    rw [← h, String.toList_ofList] at hd
    simpa using List.all_eq_true.mp List.all_takeWhile d hd
  · intro h
    have kept : ∀ d ∈ line.toList, (!ends d) = true := by
      intro d hd
      simp [h d hd]
    rw [List.takeWhile_append_of_pos kept, List.takeWhile_cons_of_neg (by simp [hc])]
    simp

/-- What every identifier keeps to: no space, comma, single quote or line end. -/
def Wordlike (names : List String) : Prop :=
  Legible names ∧ ∀ name ∈ names, OneLine isLineEnd name

theorem oneLine_ofName (name : String) : OneLine isLineEnd (Identifier.ofName name) := by
  intro c hc
  cases he : isLineEnd c with
  | false => rfl
  | true =>
    have allowed : Identifier.isAllowed c = false := by
      simp only [isLineEnd, Bool.or_eq_true, beq_iff_eq] at he
      rcases he with ((rfl | rfl) | rfl) | rfl <;> decide
    exact absurd hc (Identifier.not_mem_ofName allowed name)

theorem oneLine_clause {s : Surface} (h : Wordlike s.names) (name : String) :
    OneLine isLineEnd (clause s (Identifier.ofName name)) := by
  have binding := oneLine_ofName name
  have marks : OneLine isLineEnd ", " ∧ OneLine isLineEnd "\x7b " ∧ OneLine isLineEnd " \x7d" := by
    simp [OneLine, isLineEnd]
  have names : OneLine isLineEnd (braced s.names) := by
    simp [braced, marks, oneLine_intercalate marks.1 h.2]
  obtain ⟨listed, hasDefault⟩ := s
  cases hasDefault with
  | true =>
    cases listed with
    | nil => exact binding
    | cons first others => simpa [clause, binding, marks] using names
  | false =>
    cases listed with
    | nil => simp [clause, OneLine]
    | cons first others => exact names

theorem oneLine_render_iff {s : Surface} (h : Wordlike s.names) (name specifier : String)
    (he : ∀ c, ends c = true → isLineEnd c = true) :
    OneLine ends (ImportLine.render s (Identifier.ofName name) specifier) ↔
      OneLine ends specifier := by
  have marks : OneLine isLineEnd "import '" ∧ OneLine isLineEnd "import " ∧
      OneLine isLineEnd " from '" ∧ OneLine isLineEnd "';" := by
    simp [OneLine, isLineEnd]
  have opening := marks.1.mono he
  have word := marks.2.1.mono he
  have middle := marks.2.2.1.mono he
  have closing := marks.2.2.2.mono he
  have clause := (oneLine_clause h name).mono he
  by_cases empty : s.isEmpty = true
  · simp [ImportLine.render, empty, opening, closing]
  · simp [ImportLine.render, empty, word, clause, middle, closing]

theorem firstLine_render_iff {s : Surface} (h : Wordlike s.names) (name specifier : String)
    (hn : ends '\n' = true) (he : ∀ c, ends c = true → isLineEnd c = true) :
    firstLine ends (render s (Identifier.ofName name) specifier) =
        ImportLine.render s (Identifier.ofName name) specifier ↔ OneLine ends specifier := by
  have file : render s (Identifier.ofName name) specifier =
      ImportLine.render s (Identifier.ofName name) specifier ++ String.singleton '\n' ++
        ("\n" ++ describeBlock (Identifier.ofName name) ++ "\n") := by
    have breaks : "\n\n" = String.singleton '\n' ++ "\n" := by decide
    simp only [render, breaks, String.append_assoc]
  rw [file, firstLine_append_iff _ _ hn, oneLine_render_iff h name specifier he]

end TestFile

/-! ### Where the characters of a specifier come from -/

namespace Path

theorem subset_of_mem_pieces {cs piece : List Char} (hp : piece ∈ pieces cs) : piece ⊆ cs := by
  induction cs generalizing piece with
  | nil => simp_all [pieces]
  | cons c cs ih =>
    by_cases hc : c = '/'
    · rw [hc, pieces_cons_slash] at hp
      rcases List.mem_cons.mp hp with rfl | hp
      · simp
      · exact List.Subset.trans (ih hp) (List.subset_cons_self _ _)
    · obtain ⟨first, others, hs⟩ := List.exists_cons_of_ne_nil (pieces_ne_nil cs)
      rw [pieces_cons hc hs] at hp
      rw [hs] at ih
      rcases List.mem_cons.mp hp with rfl | hp
      · exact List.cons_subset_cons c (ih List.mem_cons_self)
      · exact List.Subset.trans (ih (List.mem_cons_of_mem first hp)) (List.subset_cons_self _ _)

theorem subset_of_mem_names_ofString {s name : String} (h : name ∈ (ofString s).names) :
    name.toList ⊆ s.toList := by
  simp only [ofString, List.mem_map, List.mem_filter] at h
  obtain ⟨piece, ⟨hp, -⟩, rfl⟩ := h
  rw [String.toList_ofList]
  exact subset_of_mem_pieces hp

theorem mem_names_join {p q : Path} {name : String} (h : name ∈ (p.join q).names) :
    name ∈ p.names ∨ name ∈ q.names := by
  by_cases ha : q.isAbsolute = true
  · simp only [join, ha, if_true] at h
    exact Or.inr h
  · simp only [join, ha, Bool.false_eq_true, if_false, List.mem_append] at h
    exact h

theorem mem_name_of_mem_stem {p : Path} {c : Char} (h : c ∈ p.stem.toList) :
    ∃ name ∈ p.names, c ∈ name.toList := by
  rw [stem, String.toList_ofList] at h
  have hn := splitName_stem_subset _ h
  rw [name, List.getLastD_eq_getLast?] at hn
  cases hl : p.names.getLast? with
  | none => simp [hl] at hn
  | some last =>
    rw [hl] at hn
    exact ⟨last, List.mem_of_getLast? hl, hn⟩

theorem not_mem_specifier {cwd module folder : Path} {c : Char} (hd : c ≠ '.') (hs : c ≠ '/')
    (h : ∀ name ∈ cwd.resolve module, c ∉ name.toList) :
    c ∉ (specifier cwd module folder).toList := by
  by_cases hb : between (cwd.resolve folder) (cwd.resolve module) = []
  · rw [specifier_of_between_nil hb]
    simpa using hd
  · have names : ∀ name ∈ between (cwd.resolve folder) (cwd.resolve module), c ∉ name.toList := by
      intro name hn
      rcases List.mem_append.mp hn with hn | hn
      · simp [List.eq_of_mem_replicate hn, hd]
      · exact h name (List.mem_of_mem_drop hn)
    have way : c ∉ ("/".intercalate (between (cwd.resolve folder) (cwd.resolve module))).toList := by
      rw [String.toList_intercalate]
      apply ImportLine.not_mem_intercalate
      · simpa using hs
      · simpa using names
    rcases specifier_cases hb with hw | hw
    · rwa [hw]
    · rw [hw, String.toList_append, List.mem_append]
      have here : c ∉ "./".toList := by simp [hd, hs]
      simp only [here, way, or_self, not_false_eq_true]

end Path

namespace Target

open Scaffold.Path (ofString)
open StringLiteral (Spells special isLineEnd)
open TestFile (firstLine OneLine Wordlike)
open Export (Surface)

variable {cwd source : Path}

theorem mem_name_of_mem_specifier {folder : Path} {c : Char} (hd : c ≠ '.') (hs : c ≠ '/')
    (h : c ∈ (Path.specifier cwd (source.parent.join (ofString source.stem)) folder).toList) :
    ∃ name ∈ cwd.names ++ source.names, c ∈ name.toList := by
  apply Classical.byContradiction
  intro none
  refine Path.not_mem_specifier hd hs (fun name hn hc => none ?_) h
  -- the names of a resolved path are names of the working folder, of the parent or of the stem
  rcases Path.mem_names_join (Path.mem_normalize hn).1 with hn | hn
  · exact ⟨name, List.mem_append_left _ hn, hc⟩
  · rcases Path.mem_names_join hn with hn | hn
    · exact ⟨name, List.mem_append_right _ (List.dropLast_subset _ hn), hc⟩
    · have stem := Path.subset_of_mem_names_ofString hn hc
      obtain ⟨other, ho, hc⟩ := Path.mem_name_of_mem_stem stem
      exact ⟨other, List.mem_append_right _ ho, hc⟩

theorem mem_specifier_of_namesSource {text : String} (h : NamesSource source text) {c : Char}
    (hc : c ∈ source.stem.toList) : c ∈ text.toList :=
  Path.subset_of_mem_names_ofString (List.mem_of_getLast? h.1) hc

/-- For every source and every text as test folder there is a target. Whatever words the surface
has, the literal in the import line denotes the specifier exactly when the specifier has no special
character, and the import is the first line exactly when the specifier has no line end, of those
that are counted as such. Apart from dots and slashes the specifier has only characters of the
names of the source and the working folder, and where it names the source it has those of the
stem. -/
theorem import_literal_denotes_specifier_unless_special {settings : Settings} {text : String}
    (hf : settings.folder = .text text) :
    ∃ target, ofSource cwd source settings = .ok target ∧
      (∀ s : Surface, Wordlike s.names →
        let line := ImportLine.render s target.binding target.specifier
        let file := TestFile.render s target.binding target.specifier
        (Spells (ImportLine.read line).specifier target.specifier ↔
          ∀ c ∈ special, c ∉ target.specifier.toList) ∧
        (firstLine (· == '\n') file = line ↔ '\n' ∉ target.specifier.toList) ∧
        (firstLine isLineEnd file = line ↔ OneLine isLineEnd target.specifier)) ∧
      (∀ c ∈ target.specifier.toList, c ≠ '.' → c ≠ '/' →
        ∃ name ∈ cwd.names ++ source.names, c ∈ name.toList) ∧
      (NamesSource source target.specifier →
        ∀ c ∈ source.stem.toList, c ∈ target.specifier.toList) := by
  have target := ofSource_of_text hf cwd source
  refine ⟨_, target, ?_⟩
  dsimp only
  refine ⟨?_, ?_, ?_⟩
  · intro s words
    have feeds : ∀ c, (c == '\n') = true → isLineEnd c = true := by
      intro c hc
      simp [isLineEnd, beq_iff_eq.mp hc]
    have read := ImportLine.read_render
      (Path.specifier cwd (source.parent.join (ofString source.stem))
        (source.parent.join (ofString text)))
      (ImportLine.bindable_ofName source.stem) words.1
    refine ⟨?_, ?_, TestFile.firstLine_render_iff words _ _ rfl fun _ => id⟩
    · rw [read]
      dsimp only
      exact StringLiteral.spells_self_iff _
    · rw [TestFile.firstLine_render_iff words _ _ rfl feeds]
      constructor
      · intro h hc
        simpa using h _ hc
      · intro h c hc
        have : c ≠ '\n' := fun he => h (he ▸ hc)
        simpa using this
  · intro c hc hd hs
    exact mem_name_of_mem_specifier hd hs hc
  · intro named c hc
    exact mem_specifier_of_namesSource named hc

/-- Double quotes, blanks and separators of lines outside ASCII stand for themselves. -/
theorem oddSource_denoted :
    Language.ofPath (ofString "a \"b\"/c\u2028.ts") = .ok .typescript ∧
      ∃ target, ofSource (ofString "/work/proj") (ofString "a \"b\"/c\u2028.ts") {} = .ok target ∧
        Spells (ImportLine.read
          (ImportLine.render ⟨["from", "a"], true⟩ target.binding target.specifier)).specifier
          target.specifier ∧
        firstLine (· == '\n')
            (TestFile.render ⟨["from", "a"], true⟩ target.binding target.specifier) =
          ImportLine.render ⟨["from", "a"], true⟩ target.binding target.specifier := by
  have accepted : Language.ofPath (ofString "a \"b\"/c\u2028.ts") = .ok .typescript := rfl
  have words : Wordlike ["from", "a"] := by
    simp [Wordlike, ImportLine.Legible, OneLine, isLineEnd]
  obtain ⟨target, ht, reads, origin, -⟩ :=
    @import_literal_denotes_specifier_unless_special (ofString "/work/proj")
      (ofString "a \"b\"/c\u2028.ts") {} "__tests__" rfl
  have names : ∀ c ∈ special,
      ∀ name ∈ (ofString "/work/proj").names ++ (ofString "a \"b\"/c\u2028.ts").names,
        c ∉ name.toList := by
    simp only [special, List.forall_mem_cons]
    exact ⟨by decide, by decide, by decide, by decide, by simp⟩
  have dots : ∀ c ∈ special, c ≠ '.' ∧ c ≠ '/' := by simp [special]
  have free : ∀ c ∈ special, c ∉ target.specifier.toList := by
    intro c hs hc
    obtain ⟨name, hn, hm⟩ := origin c hc (dots c hs).1 (dots c hs).2
    exact names c hs name hn hm
  obtain ⟨spells, first, -⟩ := reads ⟨["from", "a"], true⟩ words
  exact ⟨accepted, target, ht, spells.mpr free, first.mpr (free _ (by decide))⟩

/-- A quote in the name of a source makes the literal ill formed, and a line feed in it ends the
first line. -/
theorem quotedSource_not_denoted :
    (Language.ofPath (ofString "it's.ts") = .ok .typescript ∧
      ∃ target, ofSource (ofString "/work/proj") (ofString "it's.ts") {} = .ok target ∧
        target.specifier = "../it's" ∧
        ¬∃ us, StringLiteral.Denotes (ImportLine.read
          (ImportLine.render ⟨["a"], false⟩ target.binding target.specifier)).specifier.toList us) ∧
    Language.ofPath (ofString "a\nb.ts") = .ok .typescript ∧
      ∃ target, ofSource (ofString "/work/proj") (ofString "a\nb.ts") {} = .ok target ∧
        target.specifier = "../a\nb" ∧
        firstLine (· == '\n') (TestFile.render ⟨["a"], false⟩ target.binding target.specifier) ≠
          ImportLine.render ⟨["a"], false⟩ target.binding target.specifier := by
  have accepted : Language.ofPath (ofString "it's.ts") = .ok .typescript := rfl
  have acceptedToo : Language.ofPath (ofString "a\nb.ts") = .ok .typescript := rfl
  have words : Wordlike ["a"] := by
    simp [Wordlike, ImportLine.Legible, OneLine, isLineEnd]
  have quote : Path.specifier (ofString "/work/proj")
      ((ofString "it's.ts").parent.join (ofString (ofString "it's.ts").stem))
      ((ofString "it's.ts").parent.join (ofString "__tests__")) = "../it's" := by decide +kernel
  have feed : Path.specifier (ofString "/work/proj")
      ((ofString "a\nb.ts").parent.join (ofString (ofString "a\nb.ts").stem))
      ((ofString "a\nb.ts").parent.join (ofString "__tests__")) = "../a\nb" := by decide +kernel
  have folder : ({} : Settings).folder = .text "__tests__" := rfl
  refine ⟨⟨accepted, _, ofSource_of_text folder (ofString "/work/proj") (ofString "it's.ts"), ?_⟩,
    acceptedToo, _, ofSource_of_text folder (ofString "/work/proj") (ofString "a\nb.ts"), ?_⟩ <;>
    dsimp only
  · refine ⟨quote, ?_⟩
    intro literal
    obtain ⟨us, denoted⟩ := literal
    rw [quote, ImportLine.read_render _ (ImportLine.bindable_ofName _) words.1] at denoted
    have plain := (denoted.of_no_backslash (by decide)).1
    exact plain '\'' (by decide) (by decide)
  · refine ⟨feed, ?_⟩
    intro first
    rw [feed, TestFile.firstLine_render_iff words _ _ rfl (by simp [isLineEnd])] at first
    exact absurd (first '\n' (by decide)) (by decide)

end Target

end Scaffold
